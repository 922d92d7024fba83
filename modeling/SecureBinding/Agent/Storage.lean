import SecureBinding.Go.Strings
import SecureBinding.Go.Time

/-!
# Agent.Storage

The model of `agent/cvms/api/grpc/storage`: messages that wait to be sent, kept in memory and
in a file.

`json.Marshal` and `json.Unmarshal` at the type of the messages are a parameter, `Codec`; the
result of reading or writing the file is an argument, the error if there is one. The lock of
the store is held in every operation from its start to its end.
-/

namespace SecureBinding.Agent

open Go

/-- `storage.Message`, for messages of any type. -/
structure Message (α : Type) where
  message : α
  time : Time
  deriving Repr, DecidableEq

/-- `json.Marshal`, and `json.Unmarshal` into a value that is there: the error, and the value
after it, which an error does not leave as it was. -/
structure Codec (α : Type) where
  marshal : List (Message α) → Except GoString Bytes
  unmarshal : Bytes → List (Message α) → Option GoString × List (Message α)

/-- What `Clear` writes. -/
def emptyJson : Bytes := lit "[]"

/-- Messages that can be stored have a text, and decoding it into the messages it was made
from leaves them as they are. Nothing is said of decoding it into anything else. -/
structure Codec.Lossless {α : Type} (c : Codec α) (storable : Message α → Prop) : Prop where
  marshal_ok : ∀ msgs, (∀ m ∈ msgs, storable m) →
    ∃ data, c.marshal msgs = .ok data ∧ c.unmarshal data msgs = (none, msgs)
  unmarshal_empty : c.unmarshal emptyJson [] = (none, [])

/-- `FileStorage` and its file. -/
structure FileStorage (α : Type) where
  file : Option Bytes := none
  msgs : List (Message α) := []

namespace FileStorage

variable {α : Type}

/-- `NewFileStorage`, in a directory that may have a file from an earlier process. -/
def new (fs : FileStorage α) : FileStorage α := { file := fs.file }

def writeFile (fs : FileStorage α) (data : Bytes) : Option GoString → Option GoString × FileStorage α
  | some err => (some err, fs)
  | none => (none, { fs with file := some data })

/-- `Load`. A file that is not there is no error. -/
def load (c : Codec α) (fs : FileStorage α) (readErr : Option GoString) :
    Except GoString (List (Message α)) × FileStorage α :=
  match fs.file with
  | none => (.ok [], fs)
  | some data =>
    match readErr with
    | some err => (.error err, fs)
    | none =>
      match c.unmarshal data fs.msgs with
      | (some err, msgs) => (.error err, { fs with msgs })
      | (none, msgs) => (.ok msgs, { fs with msgs })

/-- `Save`. The memory is changed also if the file is not. -/
def save (c : Codec α) (fs : FileStorage α) (messages : List (Message α))
    (writeErr : Option GoString) : Option GoString × FileStorage α :=
  let fs := { fs with msgs := messages }
  match c.marshal messages with
  | .error err => (some err, fs)
  | .ok data => fs.writeFile data writeErr

def add (c : Codec α) (fs : FileStorage α) (msg : α) (now : Time) (writeErr : Option GoString) :
    Option GoString × FileStorage α :=
  let fs := { fs with msgs := fs.msgs ++ [⟨msg, now⟩] }
  match c.marshal fs.msgs with
  | .error err => (some err, fs)
  | .ok data => fs.writeFile data writeErr

def clear (fs : FileStorage α) (writeErr : Option GoString) : Option GoString × FileStorage α :=
  { fs with msgs := [] }.writeFile emptyJson writeErr

/-! ### A store whose operations succeed -/

/-- The file, if there is one, decodes into the memory at hand, and gives these messages. -/
structure Holds (c : Codec α) (fs : FileStorage α) (msgs : List (Message α)) : Prop where
  absent : fs.file = none → msgs = []
  unmarshal : ∀ data, fs.file = some data → c.unmarshal data fs.msgs = (none, msgs)

/-- The memory is what the file holds. -/
structure Synced (c : Codec α) (fs : FileStorage α) (msgs : List (Message α)) : Prop
    extends Holds c fs msgs where
  msgs_eq : fs.msgs = msgs

variable {c : Codec α} {storable : Message α → Prop} {fs : FileStorage α}
  {msgs : List (Message α)}

theorem Holds.load (h : fs.Holds c msgs) : (fs.load c none).1 = .ok msgs := by
  cases hfile : fs.file with
  | none => simp [FileStorage.load, hfile, h.absent hfile]
  | some data => simp [FileStorage.load, hfile, h.unmarshal data hfile]

/-- A store after a write that puts these messages into its file. -/
theorem synced_of_file {data : Bytes} (hfile : fs.file = some data)
    (hread : c.unmarshal data msgs = (none, msgs)) (hmsgs : fs.msgs = msgs) :
    fs.Synced c msgs where
  absent hnone := by simp [hfile] at hnone
  unmarshal data' hdata' := by
    obtain rfl := Option.some.inj (hfile.symm.trans hdata')
    rw [hmsgs]
    exact hread
  msgs_eq := hmsgs

theorem Synced.add (hc : c.Lossless storable) (h : fs.Synced c msgs) (msg : α) (now : Time)
    (hall : ∀ m ∈ msgs ++ [⟨msg, now⟩], storable m) :
    (fs.add c msg now none).2.Synced c (msgs ++ [⟨msg, now⟩]) := by
  obtain ⟨data, hdata, hread⟩ := hc.marshal_ok (msgs ++ [⟨msg, now⟩]) hall
  simp only [FileStorage.add, h.msgs_eq, hdata]
  exact synced_of_file rfl hread rfl

theorem synced_clear (hc : c.Lossless storable) (fs : FileStorage α) :
    (fs.clear none).2.Synced c [] :=
  synced_of_file rfl hc.unmarshal_empty rfl

end FileStorage

end SecureBinding.Agent
