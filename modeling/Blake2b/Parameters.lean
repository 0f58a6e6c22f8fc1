import Blake2b.Compression.Schedule
import Blake2b.Fault
import Blake2b.LittleEndian
/-!
# Parameters

A hash is parametrised by the length of its digest, the length of its key, a
salt and a personalization. Together with the fields of tree hashing, which in
the sequential mode are fixed, they are packed into 64 bytes:

* the digest length, the key length, the fanout and the depth, a byte each;
* the leaf length in four bytes and the node offset in eight;
* the node depth and the inner length, a byte each;
* fourteen reserved bytes, which are zero;
* sixteen bytes of salt and sixteen of personalization.

`packed` is the concatenation in this order, and `unpack` reads each field at
its offset. The packed block is xored into the initialisation vector, so that
any difference of parameters is a difference of the first chaining value.
-/

namespace Blake2b

abbrev maxDigestLength : Nat := 64

abbrev maxKeyLength : Nat := 64

abbrev saltLength : Nat := 16

abbrev personalLength : Nat := 16

abbrev parametersLength : Nat := 64

abbrev Salt := Vector UInt8 saltLength

abbrev Personal := Vector UInt8 personalLength

structure Parameters where
  digestLength : UInt8
  keyLength : UInt8
  fanout : UInt8
  depth : UInt8
  leafLength : UInt32
  nodeOffset : UInt64
  nodeDepth : UInt8
  innerLength : UInt8
  salt : Salt
  personal : Personal
deriving DecidableEq

namespace Parameters

/-- The parameters of a sequential hash. An absent salt or personalization is
sixteen zeros. -/
def sequential (digestLength keyLength : Nat) (salt : Option Salt)
    (personal : Option Personal) : Except Fault Parameters :=
  if digestLength = 0 ∨ digestLength > maxDigestLength then
    .error (.outOfRange .digestLength digestLength)
  else if keyLength > maxKeyLength then
    .error (.outOfRange .keyLength keyLength)
  else
    .ok {
      digestLength := digestLength.toUInt8
      keyLength := keyLength.toUInt8
      fanout := 1
      depth := 1
      leafLength := 0
      nodeOffset := 0
      nodeDepth := 0
      innerLength := 0
      salt := salt.getD (Vector.replicate saltLength 0)
      personal := personal.getD (Vector.replicate personalLength 0) }

/-- The parameters with every field zero. -/
def wiped : Parameters where
  digestLength := 0
  keyLength := 0
  fanout := 0
  depth := 0
  leafLength := 0
  nodeOffset := 0
  nodeDepth := 0
  innerLength := 0
  salt := Vector.replicate saltLength 0
  personal := Vector.replicate personalLength 0

/-- The four bytes of a half word, least significant first. -/
def halfWordBytes (half : UInt32) : Vector UInt8 4 :=
  Vector.ofFn fun i => (half >>> (8 * i.val).toUInt32).toUInt8

/-- The half word whose bytes are given, least significant first. -/
def halfWord (bytes : Vector UInt8 4) : UInt32 :=
  bytes.toList.foldr (fun byte half => (half <<< 8) ||| byte.toUInt32) 0

/-- The packed form of the parameters. -/
def packed (p : Parameters) : Vector UInt8 parametersLength :=
  #v[p.digestLength, p.keyLength, p.fanout, p.depth] ++
    halfWordBytes p.leafLength ++
    LittleEndian.encode p.nodeOffset ++
    #v[p.nodeDepth, p.innerLength] ++
    Vector.replicate 14 (0 : UInt8) ++
    p.salt ++
    p.personal

/-- The `k` bytes from offset `offset` on. -/
def field (bytes : Vector UInt8 parametersLength) (offset k : Nat)
    (h : offset + k ≤ parametersLength) : Vector UInt8 k :=
  Vector.ofFn fun i => bytes.get ⟨offset + i.val, by omega⟩

/-- Reads each field at its offset. -/
def unpack (bytes : Vector UInt8 parametersLength) : Parameters where
  digestLength := bytes[0]
  keyLength := bytes[1]
  fanout := bytes[2]
  depth := bytes[3]
  leafLength := halfWord (field bytes 4 4 (by decide))
  nodeOffset := LittleEndian.decode (field bytes 8 8 (by decide))
  nodeDepth := bytes[16]
  innerLength := bytes[17]
  salt := field bytes 32 16 (by decide)
  personal := field bytes 48 16 (by decide)

def lanes (p : Parameters) : Vector UInt64 8 := @LittleEndian.decodeLanes 8 p.packed

/-- Xors the packed parameters into a chaining value, lane by lane. -/
def applyTo (p : Parameters) (h : ChainingValue) : ChainingValue :=
  Vector.zipWith (· ^^^ ·) h p.lanes

def record (p : Parameters) : Text.Record :=
  .full "ParamBlock"
    [("digest_length", toString p.digestLength.toNat),
     ("key_length", toString p.keyLength.toNat),
     ("fanout", toString p.fanout.toNat),
     ("depth", toString p.depth.toNat),
     ("leaf_length", toString p.leafLength.toNat),
     ("node_offset", toString p.nodeOffset.toNat),
     ("node_depth", toString p.nodeDepth.toNat),
     ("inner_length", toString p.innerLength.toNat),
     ("salt", Text.byteList p.salt.toList),
     ("personal", Text.byteList p.personal.toList)]

def description (p : Parameters) : String := p.record.oneLine

@[simp] theorem getElem_applyTo (p : Parameters) (h : ChainingValue) (i : Nat)
    (hi : i < 8) : (p.applyTo h)[i] = h[i] ^^^ p.lanes[i] := by
  simp [applyTo]

end Parameters

end Blake2b
