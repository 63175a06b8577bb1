import StaticDns.Message.Code
import StaticDns.Net.Ipv4

/-!
# StaticDns.Table — records and their look-up

A table is a list of records in the order in which they were given, and the first record that
matches a query answers it. A record whose first label is `*` matches everything, so it hides all
records behind it.

* `Record.ofText`: the record of a dotted name and an address.
* `Table.lookup_append`: a table answers as its front does, and where that is silent as its back.
-/

namespace StaticDns

/-- A host name with the address it stands for. The name of a record is always the wire form of some
text, so what holds of every encoded name holds of every record. -/
structure Record where
  name : Octets
  address : Ipv4
  encoded : ∃ text, Name.encode text = .ok name

namespace Record

/-- The record that gives an address to a dotted name. -/
def ofText (text : String) (address : Ipv4) : Except NameError Record :=
  match h : Name.encode text with
  | .error error => .error error
  | .ok name => .ok ⟨name, address, text, h⟩

/-- Whether the first label of the name is exactly `*`. -/
def isWildcard (record : Record) : Bool := [1, 0x2A].isPrefixOf record.name

/-- Whether the record answers a query. The domain in which a reverse query asks does not count. -/
def matchesQuery (record : Record) (type : RecordType) (name : Octets) : Bool :=
  record.isWildcard ||
    match type with
    | .a => Octets.fold record.name == Octets.fold name
    | .ptr => record.address.reversedWire.isPrefixOf name

end Record

inductive Answer where
  | address (host : Ipv4)
  | name (wire : Octets)
  deriving DecidableEq, Repr

def Answer.rdata : Answer → Octets
  | .address host => host.octets
  | .name wire => wire

def Record.answer (record : Record) : RecordType → Answer
  | .a => .address record.address
  | .ptr => .name record.name

/-- Records in the order in which they are tried. -/
structure Table where
  records : List Record := []

namespace Table

@[ext] theorem ext {table other : Table} (same : table.records = other.records) : table = other :=
  congrArg Table.mk same

def size (table : Table) : Nat := table.records.length

/-- The answer of the first record that matches a query. -/
def lookup (table : Table) (type : RecordType) (name : Octets) : Option Answer :=
  (table.records.find? fun record => record.matchesQuery type name).map fun record =>
    record.answer type

def append (front back : Table) : Table := ⟨front.records ++ back.records⟩

instance : Append Table := ⟨append⟩

@[simp] theorem records_append (front back : Table) :
    (front ++ back).records = front.records ++ back.records := rfl

theorem lookup_append (front back : Table) (type : RecordType) (name : Octets) :
    (front ++ back).lookup type name = (front.lookup type name).or (back.lookup type name) := by
  simp only [lookup, records_append, List.find?_append]
  cases front.records.find? fun record => record.matchesQuery type name <;> simp

end Table

end StaticDns
