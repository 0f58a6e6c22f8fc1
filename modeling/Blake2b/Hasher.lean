import Blake2b.Compression.Workspace
import Blake2b.Digest
import Blake2b.Intake
/-!
# Hashers

A hasher takes in a message in pieces and gives its digest once. It is an
intake together with the chaining value into which the frames of the intake are
compressed, a workspace for that, and a staging area for the output.

An operation on a hasher gives its outcome and the hasher afterwards, also when
it refuses; so what a refusal leaves behind can be stated. After a digest has
been given every further piece and every further digest is refused, and nothing
of the message is left in the hasher.
-/

namespace Blake2b

/-- How far a hasher has come. -/
inductive Phase where
  /-- Nothing has been handed in yet. -/
  | fresh
  /-- A piece has been handed in, possibly an empty one. -/
  | absorbing
  /-- The digest has been given. -/
  | finalized
deriving DecidableEq

def Phase.label : Phase → String
  | fresh => "Fresh"
  | absorbing => "Absorbing"
  | finalized => "Finalized"

/-- The state of a hash in progress. -/
structure Hasher where
  chaining : ChainingValue
  intake : Intake
  workspace : Workspace
  staging : Vector UInt8 maxDigestLength
  digestLength : Nat
  phase : Phase
deriving DecidableEq

namespace Hasher

/-- The hasher of given parameters. It takes in no key: with a key length in
the parameters, the key block has to be handed in first. -/
def ofParameters (p : Parameters) : Hasher where
  chaining := p.applyTo Compression.iv
  intake := .empty
  workspace := .zero
  staging := Vector.replicate maxDigestLength 0
  digestLength := p.digestLength.toNat
  phase := .fresh

/-- Takes in data and compresses the frames that this gives out. -/
def absorb (s : Hasher) (data : Bytes) : Hasher :=
  let taken := s.intake.absorb data
  let compressed := s.workspace.compressAll s.chaining taken.1
  { s with
    chaining := compressed.1
    intake := taken.2
    workspace := compressed.2 }

def unkeyed (digestLength : Nat) (salt : Option Salt) (personal : Option Personal) :
    Except Fault Hasher :=
  (Parameters.sequential digestLength 0 salt personal).map ofParameters

/-- A key behind which zeros fill the block. -/
def keyBlock (key : Bytes) : Block := Storage.overwrite Block.zero 0 key

/-- A hasher with a key. The key block is the first block of its stream, and
counts as such. -/
def keyed (digestLength : Nat) (key : Bytes) (salt : Option Salt)
    (personal : Option Personal) : Except Fault Hasher :=
  match Parameters.sequential digestLength key.length salt personal with
  | .error fault => .error fault
  | .ok p =>
      if key.isEmpty then .error .emptyKey
      else .ok ((ofParameters p).absorb (keyBlock key).toList)

def isFinalized (s : Hasher) : Bool := s.phase = .finalized

def buffered (s : Hasher) : Nat := s.intake.held

def counter (s : Hasher) : Counter := s.intake.counter

def setCounter (s : Hasher) (t : Counter) : Hasher :=
  { s with intake := { s.intake with counter := t } }

/-- Whether no trace of a message or key is left. -/
def isWiped (s : Hasher) : Bool :=
  s.chaining.toList.all (· == 0) &&
    (s.intake.counter.low == 0 && s.intake.counter.high == 0) &&
    s.intake.window.toList.all (· == 0) &&
    s.staging.toList.all (· == 0) &&
    s.workspace.isWiped

def update (s : Hasher) (data : Bytes) : Except Fault Unit × Hasher :=
  if s.isFinalized then (.error .alreadyFinalized, s)
  else (.ok (), { s.absorb data with phase := .absorbing })

/-- Hands in pieces in order, up to the first that is refused. -/
def updateAll (s : Hasher) : List Bytes → Except Fault Unit × Hasher
  | [] => (.ok (), s)
  | data :: rest =>
      match s.update data with
      | (.ok (), next) => next.updateAll rest
      | (.error fault, next) => (.error fault, next)

/-- Compresses the last block and writes the chaining value to the staging
area. -/
def stage (s : Hasher) : Hasher :=
  let last := s.intake.close
  let compressed := s.workspace.compress s.chaining last.frame
  { s with
    chaining := compressed.1
    intake := last
    workspace := compressed.2
    staging := Storage.overwrite s.staging 0
      (LittleEndian.encodeAll compressed.1.toList) }

/-- Wipes everything but the staging area. As in `Intake.wipe`, `zeroize` is taken to leave
zero in every word of the chaining value and of the workspace. -/
def wipeWorking (s : Hasher) : Hasher :=
  { s with
    chaining := Vector.replicate 8 0
    intake := s.intake.wipe
    workspace := .zero }

/-- Ends the stream and leaves the whole output in the staging area. -/
def finish (s : Hasher) : Hasher :=
  { s.stage.wipeWorking with phase := .finalized }

/-- Wipes the staging area: `zeroize` is taken to leave zero in every byte of it. -/
def wipeStaging (s : Hasher) : Hasher :=
  { s with staging := Vector.replicate maxDigestLength 0 }

/-- Ends the stream and gives its digest. -/
def finalize (s : Hasher) : Except Fault Digest × Hasher :=
  if s.isFinalized then (.error .alreadyFinalized, s)
  else
    let done := s.finish
    (.ok (.ofOutput done.staging s.digestLength), done.wipeStaging)

/-- Ends the stream and fills a buffer with the first bytes of its digest. The
buffer is given back whether it was filled or not. -/
def finalizeInto (s : Hasher) (buffer : Bytes) : Except Fault Unit × Bytes × Hasher :=
  if s.isFinalized then (.error .alreadyFinalized, buffer, s)
  else if buffer.length = 0 ∨ buffer.length > s.digestLength then
    (.error (.outOfRange .outputLength buffer.length), buffer, s)
  else
    let done := s.finish
    (.ok (), Storage.slice done.staging 0 buffer.length, done.wipeStaging)

/-- The digest of the pieces handed in one after the other. -/
def digestOf (s : Hasher) (data : List Bytes) : Except Fault Digest :=
  match s.updateAll data with
  | (.ok (), next) => next.finalize.1
  | (.error fault, _) => .error fault

def record (s : Hasher) : Text.Record :=
  .partly "Blake2b"
    [("digest_length", toString s.digestLength), ("phase", s.phase.label)]

@[simp] theorem updateAll_nil (s : Hasher) : s.updateAll [] = (.ok (), s) := rfl

theorem update_of_finalized (s : Hasher) (data : Bytes) (h : s.phase = .finalized) :
    s.update data = (.error .alreadyFinalized, s) := by
  simp [update, isFinalized, h]

theorem update_of_ne_finalized (s : Hasher) (data : Bytes) (h : s.phase ≠ .finalized) :
    s.update data = (.ok (), { s.absorb data with phase := .absorbing }) := by
  simp [update, isFinalized, h]

end Hasher

def hash (message : Bytes) (digestLength : Nat) : Except Fault Digest :=
  match Hasher.unkeyed digestLength none none with
  | .ok s => s.digestOf [message]
  | .error fault => .error fault

def keyedHash (message key : Bytes) (digestLength : Nat) : Except Fault Digest :=
  match Hasher.keyed digestLength key none none with
  | .ok s => s.digestOf [message]
  | .error fault => .error fault

end Blake2b
