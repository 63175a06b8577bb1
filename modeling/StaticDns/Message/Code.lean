import StaticDns.Octets

/-!
# StaticDns.Message.Code — record types, classes and response codes

The numbers of the message format that the server knows, and their names.
-/

namespace StaticDns

/-- The record types that are answered: addresses and names of addresses. -/
inductive RecordType where
  | a
  | ptr
  deriving DecidableEq, Repr

namespace RecordType

def code : RecordType → UInt16
  | .a => 1
  | .ptr => 12

def ofCode? (code : UInt16) : Option RecordType :=
  if code = 1 then some .a else if code = 12 then some .ptr else none

def text : RecordType → String
  | .a => "A"
  | .ptr => "PTR"

theorem ofCode?_eq_some_iff {n : UInt16} {type : RecordType} :
    ofCode? n = some type ↔ n = type.code := by
  cases type <;> simp only [ofCode?, code] <;> split <;> simp_all

end RecordType

/-- The class of Internet records, the only one that is served. -/
def classIn : UInt16 := 1

inductive Rcode where
  | noError
  | formErr
  | nxDomain
  | notImp
  deriving DecidableEq, Repr

namespace Rcode

def code : Rcode → UInt8
  | .noError => 0
  | .formErr => 1
  | .nxDomain => 3
  | .notImp => 4

def text : Rcode → String
  | .noError => "NOERROR"
  | .formErr => "FORMERR"
  | .nxDomain => "NXDOMAIN"
  | .notImp => "NOTIMP"

end Rcode

end StaticDns
