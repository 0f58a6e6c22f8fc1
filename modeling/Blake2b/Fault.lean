import Blake2b.Text.Record
/-!
# Faults

All the reasons for which an operation refuses. A length is never clamped: one
that is out of range is refused together with its value. Each cause has a
message for people, a label, and a description as a record.
-/

namespace Blake2b

/-- The lengths that a caller chooses. -/
inductive Measure where
  | digestLength
  | keyLength
  | outputLength
deriving DecidableEq

namespace Measure

def phrase : Measure → String
  | digestLength => "digest length"
  | keyLength => "key length"
  | outputLength => "output length"

def label : Measure → String
  | digestLength => "DigestLength"
  | keyLength => "KeyLength"
  | outputLength => "OutputLength"

def all : List Measure := [digestLength, keyLength, outputLength]

def ofLabel? (label : String) : Option Measure :=
  all.find? fun what => what.label == label

end Measure

/-- Why an operation refuses. -/
inductive Fault where
  /-- A length is outside its range. -/
  | outOfRange (what : Measure) (value : Nat)
  /-- A keyed hash was asked for with no key. -/
  | emptyKey
  /-- The hasher has already given its digest. -/
  | alreadyFinalized
  /-- A known answer was not met. -/
  | unexpectedAnswer (messageLength : Nat)
deriving DecidableEq

namespace Fault

def message : Fault → String
  | outOfRange what value =>
      "invalid parameter: " ++ what.phrase ++ " = " ++ toString value
  | emptyKey => "keyed mode requested with an empty key"
  | alreadyFinalized => "hash state already finalized"
  | unexpectedAnswer messageLength =>
      "self-test failed for message length " ++ toString messageLength

def label : Fault → String
  | outOfRange _ _ => "InvalidParameter"
  | emptyKey => "InvalidKey"
  | alreadyFinalized => "UseAfterFinalize"
  | unexpectedAnswer _ => "SelfTestFailed"

def record (fault : Fault) : Text.Record :=
  match fault with
  | outOfRange what value =>
      .full fault.label [("parameter", what.label), ("value", toString value)]
  | unexpectedAnswer messageLength =>
      .full fault.label [("message_length", toString messageLength)]
  | emptyKey | alreadyFinalized => .full fault.label []

def description (fault : Fault) : String := fault.record.oneLine

end Fault

end Blake2b
