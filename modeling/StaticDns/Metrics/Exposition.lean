import StaticDns.Metrics.Traffic

/-!
# StaticDns.Metrics.Exposition — metrics as text

The text exposition of all metrics: families in the order of their names, samples in the order of
their labels, a line of help and a line of type in front of each family. A family with labels is
left out until one of its labels has been met.

* `families`: everything that is measured, in order.
* `exposition`: the lines of the text.
-/

namespace StaticDns

/-- Samples of one name, with what they mean. -/
structure Family where
  name : String
  help : String
  kind : String
  samples : List String

def Family.lines (family : Family) : List String :=
  if family.samples.isEmpty then []
  else s!"# HELP {family.name} {family.help}" :: s!"# TYPE {family.name} {family.kind}" ::
    family.samples

namespace Exposition

def quoted (text : String) : String := "\"" ++ text ++ "\""

def labelled (name : String) (labels : List (String × String)) (value : String) : String :=
  name ++ "\x7b" ++ ",".intercalate (labels.map fun (key, text) => key ++ "=" ++ quoted text)
    ++ "\x7d " ++ value

/-- Pairs in the order of their first components. -/
def sorted (pairs : List (String × Nat)) : List (String × Nat) :=
  pairs.mergeSort fun one other => !(other.1 < one.1)

def counterSamples {κ : Type} (name key : String) (label : κ → String) (counter : Counter κ) :
    List String :=
  (sorted (counter.counts.map fun (k, n) => (label k, n))).map fun (text, n) =>
    labelled name [(key, text)] (toString n)

/-- The samples of a histogram whose values are shown by `display`. -/
def histogramSamples (name : String) (display : Nat → String) (histogram : Histogram) :
    List String :=
  histogram.buckets.map (fun (bound, n) =>
    labelled (name ++ "_bucket") [("le", display bound)] (toString n))
  ++ [labelled (name ++ "_bucket") [("le", "+Inf")] (toString histogram.count),
    s!"{name}_sum {display histogram.sum}",
    s!"{name}_count {histogram.count}"]

/-- Nanoseconds shown as seconds. -/
def seconds (nanoseconds : Nat) : String := String.ofList (Decimal.scaled 9 nanoseconds)

/-- A sample for every digest ever loaded: one for the one that is served and zero for others. -/
def versionSamples (versions : List (String × Bool)) : List String :=
  (sorted (versions.map fun (digest, served) => (digest, if served then 1 else 0))).map
    fun (digest, n) =>
      labelled "dnsd_reload_version_info" [("hash", "sha512"), ("value", digest)] (toString n)

end Exposition

open Exposition

/-- Everything that is measured, in the order of the names. -/
def Metrics.families (metrics : Metrics) : List Family :=
  [{ name := "dnsd_build_info"
     help := "A metric with a constant '1' value labeled by the version dnsd was built from."
     kind := "gauge"
     samples := metrics.build.toList.map fun version =>
       labelled "dnsd_build_info" [("version", version)] "1" },
   { name := "dnsd_dropped_total"
     help := "Counter of datagrams ignored without a response."
     kind := "counter"
     samples := counterSamples "dnsd_dropped_total" "reason" DropCause.label
       metrics.traffic.dropped },
   { name := "dnsd_records_loaded"
     help := "Number of records in the table currently being served."
     kind := "gauge"
     samples := [s!"dnsd_records_loaded {metrics.tables.records}"] },
   { name := "dnsd_reload_failed_total"
     help := "Counter of the number of failed reload attempts."
     kind := "counter"
     samples := [s!"dnsd_reload_failed_total {metrics.tables.failures}"] },
   { name := "dnsd_reload_version_info"
     help := "Record the hash value of the record file during reload."
     kind := "gauge"
     samples := versionSamples metrics.tables.versions },
   { name := "dnsd_request_duration_seconds"
     help := "Histogram of the time (in seconds) each request took to decode, look up and frame."
     kind := "histogram"
     samples := histogramSamples "dnsd_request_duration_seconds" seconds
       metrics.traffic.durations },
   { name := "dnsd_request_size_bytes"
     help := "Size of the request datagram in bytes."
     kind := "histogram"
     samples := histogramSamples "dnsd_request_size_bytes" toString
       metrics.traffic.requestSizes },
   { name := "dnsd_requests_total"
     help := "Counter of DNS queries answered, by query type."
     kind := "counter"
     samples := counterSamples "dnsd_requests_total" "type" askedLabel
       metrics.traffic.requests },
   { name := "dnsd_response_size_bytes"
     help := "Size of the returned response in bytes."
     kind := "histogram"
     samples := histogramSamples "dnsd_response_size_bytes" toString
       metrics.traffic.responseSizes },
   { name := "dnsd_responses_total"
     help := "Counter of response status codes."
     kind := "counter"
     samples := counterSamples "dnsd_responses_total" "rcode" Rcode.text
       metrics.traffic.responses }]

def Metrics.exposition (metrics : Metrics) : List String := metrics.families.flatMap Family.lines

/-- The lines that tell which record file is served: the number of records, and the digests. -/
def TableGauges.lines (gauges : TableGauges) : List String :=
  s!"dnsd_records_loaded {gauges.records}" :: versionSamples gauges.versions

def Traffic.dropLines (traffic : Traffic) : List String :=
  counterSamples "dnsd_dropped_total" "reason" DropCause.label traffic.dropped

end StaticDns
