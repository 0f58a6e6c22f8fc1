import Blake2b.Compression.Workspace
/-!
# Whole messages

The hash of a stream that is known as a whole. The stream is cut into blocks by
position: block `i` is the bytes from `128 * i` on, with zeros where the stream
has ended, and there is one block even if the stream is empty. Every block but
the last is counted in full and carries no flag; the last one is counted as far
as the stream goes and carries the flag of the last block. The chaining value
is the fold of compression over these frames.

The parameters come as the bytes they are packed into, and words are read and
written by their digits. Nothing here is buffered. A hasher that receives the
stream in pieces has to come to the same frames and the same bytes.
-/

namespace Blake2b.Message

def blockCount (n : Nat) : Nat := if n = 0 then 1 else (n + 127) / 128

/-- Block `i` of a stream, filled up with zeros. -/
def block (stream : Bytes) (i : Nat) : Block :=
  Vector.ofFn fun j => stream.getD (128 * i + j.val) 0

/-- Frame `i` of a stream when it is not the last one. -/
def innerFrame (stream : Bytes) (i : Nat) : Frame :=
  ⟨block stream i, Counter.ofNat (128 * (i + 1)), ⟨0, 0⟩⟩

/-- Frame `i` of a stream when it is the last one. -/
def lastFrame (stream : Bytes) (i : Nat) : Frame :=
  ⟨block stream i, Counter.ofNat stream.length, ⟨0xffffffffffffffff, 0⟩⟩

def frames (stream : Bytes) : List Frame :=
  let last := blockCount stream.length - 1
  (List.range last).map (innerFrame stream) ++ [lastFrame stream last]

/-- The chaining value from which a hash starts. Word `i` of the initialisation vector
takes in the number of the bytes from `8 * i` on. -/
def start (parameters : Bytes) : ChainingValue :=
  Vector.ofFn fun i =>
    Compression.iv.get i ^^^
      (LittleEndian.digitsValue ((parameters.drop (8 * i.val)).take 8)).toUInt64

def chain (h : ChainingValue) (frames : List Frame) : ChainingValue :=
  frames.foldl compress h

/-- The digits of the words of a chaining value. -/
def serialize (h : ChainingValue) : Bytes :=
  h.toList.flatMap fun word => LittleEndian.digits 8 word.toNat

/-- The whole output of the hash of a stream. -/
def output (parameters stream : Bytes) : Bytes :=
  serialize (chain (start parameters) (frames stream))

def paddedKey (key : Bytes) : Bytes := key ++ List.replicate (128 - key.length) 0

@[simp] theorem chain_nil (h : ChainingValue) : chain h [] = h := rfl

theorem chain_cons (h : ChainingValue) (frame : Frame) (frames : List Frame) :
    chain h (frame :: frames) = chain (compress h frame) frames := rfl

theorem chain_append (h : ChainingValue) (front back : List Frame) :
    chain h (front ++ back) = chain (chain h front) back :=
  List.foldl_append

end Blake2b.Message
