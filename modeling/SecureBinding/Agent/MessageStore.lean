import SecureBinding.Agent.Storage
import SecureBinding.Lib.Transition

/-!
# Agent.MessageStore

The store of pending messages at the type it has, and over restarts of the process.

A `ClientStreamMessage` has its content in a oneof, which is an interface in Go, and
`encoding/json` can not make a value of an interface type out of an object: it needs one that
is there. `Load` decodes into the messages that are in memory. In the process that has stored
them that goes well, since each finds itself there. In a new process the memory is empty, and
the content of every message is refused; what is decoded up to then stays in memory, without
its content. And `Add` writes what is in memory, whatever the file has.

The store is compared with a list that `Add` appends to, `Save` replaces and `Clear` empties.
-/

namespace SecureBinding.Agent.MessageStore

open Go

/-! ### Messages as JSON -/

/-- The alternatives of the oneof. -/
inductive Kind
  | agentLog
  | agentEvent
  | runRes
  | stopComputationRes
  | agentStateRes
  | vTPMattestationReport
  | azureAttestationToken
  deriving Repr, DecidableEq

/-- `ClientStreamMessage`, with contents of any type. -/
structure ClientStreamMessage (β : Type) where
  message : Option (Kind × β) := none
  deriving Repr, DecidableEq

/-- A stored message has a pointer, which may be nil. -/
abbrev Stored (β : Type) := Message (Option (ClientStreamMessage β))

variable {β : Type}

/-- `encoding/json`, at the type of the stored messages. -/
structure Json (β : Type) where
  marshal : List (Stored β) → Except GoString Bytes
  /-- The messages that a text is about. -/
  read : Bytes → Except GoString (List (Stored β))
  /-- A content that is decoded into another one of its kind: the fields that are not in the
  text keep the values they have. -/
  absorb : Kind → (old new : β) → β
  /-- The content has a text that says all of it. -/
  carries : Kind → β → Bool
  /-- The text of the `UnmarshalTypeError` for the oneof. -/
  typeError : GoString

/-- The pointer of a message, decoded into the one that is there. -/
def Json.decodeMessage (j : Json β) (prev new : Option (ClientStreamMessage β)) :
    Option GoString × Option (ClientStreamMessage β) :=
  match new with
  | none => (none, none)
  | some ⟨none⟩ => (none, some ⟨none⟩)
  | some ⟨some (kind, content)⟩ =>
    match prev with
    | some ⟨some (kind', old)⟩ =>
      -- The object has a key for its own kind only, and other keys are ignored.
      if kind' = kind then (none, some ⟨some (kind, j.absorb kind old content)⟩) else (none, prev)
    | _ => (some j.typeError, some ⟨none⟩)

/-- The elements of a slice, each decoded into the one that is there. The first error is
returned, and it stops nothing. -/
def Json.decodeInto (j : Json β) : (prev new : List (Stored β)) → Option GoString × List (Stored β)
  | _, [] => (none, [])
  | prev, m :: msgs =>
    let (err, message) := j.decodeMessage (prev.head?.bind (·.message)) m.message
    let (err', rest) := j.decodeInto prev.tail msgs
    (err.or err', ⟨message, m.time⟩ :: rest)

/-- `json.Marshal` and `json.Unmarshal`. A text that is no JSON leaves the memory alone. -/
def Json.codec (j : Json β) : Codec (Option (ClientStreamMessage β)) where
  marshal := j.marshal
  unmarshal data prev :=
    match j.read data with
    | .error err => (some err, prev)
    | .ok msgs => j.decodeInto prev msgs

/-- The text of the message says all of it. -/
def Json.Carries (j : Json β) (m : Stored β) : Prop :=
  ∀ kind content, m.message = some ⟨some (kind, content)⟩ → j.carries kind content = true

/-- What is used of `encoding/json`: a text says what it was made from, and a content is not
changed by its own text. -/
structure Json.Faithful (j : Json β) : Prop where
  read_marshal : ∀ {msgs data}, j.marshal msgs = .ok data → (∀ m ∈ msgs, j.Carries m) →
    j.read data = .ok msgs
  read_empty : j.read emptyJson = .ok []
  absorb_self : ∀ {kind content}, j.carries kind content = true →
    j.absorb kind content content = content

/-- A message without a content. -/
def Bare (m : Stored β) : Prop := ∀ kind content, m.message ≠ some ⟨some (kind, content)⟩

section Decode

variable {j : Json β} {m : Stored β}

/-- A content that finds itself is decoded. -/
theorem decodeMessage_self (hj : j.Faithful) (hm : j.Carries m) :
    j.decodeMessage m.message m.message = (none, m.message) := by
  match h : m.message with
  | none => rfl
  | some ⟨none⟩ => rfl
  | some ⟨some (kind, content)⟩ =>
    simp [Json.decodeMessage, hj.absorb_self (hm kind content h)]

theorem decodeMessage_bare (hm : Bare m) (prev : Option (ClientStreamMessage β)) :
    j.decodeMessage prev m.message = (none, m.message) := by
  match h : m.message with
  | none => rfl
  | some ⟨none⟩ => rfl
  | some ⟨some (kind, content)⟩ => exact absurd h (hm kind content)

/-- Messages that find themselves are decoded, -/
theorem decodeInto_self (hj : j.Faithful) {msgs : List (Stored β)}
    (hmsgs : ∀ m ∈ msgs, j.Carries m) : j.decodeInto msgs msgs = (none, msgs) := by
  induction msgs with
  | nil => rfl
  | cons m msgs ih =>
    rw [List.forall_mem_cons] at hmsgs
    simp [Json.decodeInto, decodeMessage_self hj hmsgs.1, ih hmsgs.2]

/-- and so are messages without a content, wherever they go. -/
theorem decodeInto_bare {msgs : List (Stored β)} (hmsgs : ∀ m ∈ msgs, Bare m)
    (prev : List (Stored β)) : j.decodeInto prev msgs = (none, msgs) := by
  induction msgs generalizing prev with
  | nil => rfl
  | cons m msgs ih =>
    rw [List.forall_mem_cons] at hmsgs
    simp [Json.decodeInto, decodeMessage_bare hmsgs.1, ih hmsgs.2]

/-- What is in memory survives its own text, if it has one that says all of it. -/
theorem codec_lossless {storable : Stored β → Prop} (hj : j.Faithful)
    (hok : ∀ msgs, (∀ m ∈ msgs, storable m) → ∃ data, j.marshal msgs = .ok data)
    (hcarries : ∀ m, storable m → j.Carries m) : j.codec.Lossless storable where
  marshal_ok msgs hmsgs := by
    obtain ⟨data, hdata⟩ := hok msgs hmsgs
    have hcar : ∀ m ∈ msgs, j.Carries m := fun m hm => hcarries m (hmsgs m hm)
    refine ⟨data, hdata, ?_⟩
    simp only [Json.codec, hj.read_marshal hdata hcar]
    exact decodeInto_self hj hcar
  unmarshal_empty := by
    simp only [Json.codec, hj.read_empty]
    rfl

end Decode

/-! ### The store and the list -/

/-- The operations, with what the file system answers, and a restart of the process. -/
inductive Action (β : Type)
  | add (msg : Option (ClientStreamMessage β)) (now : Time) (writeErr : Option GoString)
  | save (messages : List (Stored β)) (writeErr : Option GoString)
  | load (readErr : Option GoString)
  | clear (writeErr : Option GoString)
  | restart

/-- What the operations do to the list. -/
def listAfter (list : List (Stored β)) : Action β → List (Stored β)
  | .add msg now _ => list ++ [⟨msg, now⟩]
  | .save messages _ => messages
  | .load _ => list
  | .clear _ => []
  | .restart => list

/-- The store and the list, and of every call of `Load` what it returned and what the list was
then. -/
structure State (β : Type) where
  store : FileStorage (Option (ClientStreamMessage β)) := {}
  list : List (Stored β) := []
  loads : List (Except GoString (List (Stored β)) × List (Stored β)) := []

def storeAfter (j : Json β) (store : FileStorage (Option (ClientStreamMessage β))) :
    Action β → FileStorage (Option (ClientStreamMessage β))
  | .add msg now writeErr => (store.add j.codec msg now writeErr).2
  | .save messages writeErr => (store.save j.codec messages writeErr).2
  | .load readErr => (store.load j.codec readErr).2
  | .clear writeErr => (store.clear writeErr).2
  | .restart => store.new

def step (j : Json β) (s : State β) (a : Action β) : Option (State β) :=
  some {
    store := storeAfter j s.store a
    list := listAfter s.list a
    loads :=
      match a with
      | .load readErr => ((s.store.load j.codec readErr).1, s.list) :: s.loads
      | _ => s.loads }

/-- Every `Load` has returned the messages of the list. -/
def Durable (s : State β) : Prop := ∀ returned list, (returned, list) ∈ s.loads → returned = .ok list

/-- The file system and `json.Marshal` return no error, texts say all of what is stored, and
what `Add` and `Load` need is in memory: the messages of the list, or for `Load` none of them
has a content. -/
def InMemory (j : Json β) (s : State β) : Action β → Prop
  | .add msg now writeErr => writeErr = none ∧ s.store.msgs = s.list ∧ j.Carries ⟨msg, now⟩ ∧
      (j.marshal (s.list ++ [⟨msg, now⟩])).isOk = true
  | .save messages writeErr => writeErr = none ∧ (∀ m ∈ messages, j.Carries m) ∧
      (j.marshal messages).isOk = true
  | .load readErr => readErr = none ∧ (s.store.msgs = s.list ∨ ∀ m ∈ s.list, Bare m)
  | .clear writeErr => writeErr = none
  | .restart => True

instance (j : Json β) (m : Stored β) : Decidable (j.Carries m) :=
  match h : m.message with
  | none => isTrue (by simp [Json.Carries, h])
  | some ⟨none⟩ => isTrue (by simp [Json.Carries, h])
  | some ⟨some (kind, content)⟩ =>
    decidable_of_iff (j.carries kind content = true) (by simp [Json.Carries, h])

instance (m : Stored β) : Decidable (Bare m) :=
  match h : m.message with
  | none => isTrue (by simp [Bare, h])
  | some ⟨none⟩ => isTrue (by simp [Bare, h])
  | some ⟨some (kind, content)⟩ => isFalse fun hbare => hbare kind content h

instance [DecidableEq β] (j : Json β) (s : State β) : ∀ a, Decidable (InMemory j s a)
  | .add _ _ _ => inferInstanceAs (Decidable (_ ∧ _ ∧ _ ∧ _))
  | .save _ _ => inferInstanceAs (Decidable (_ ∧ _ ∧ _))
  | .load _ => inferInstanceAs (Decidable (_ ∧ (_ ∨ _)))
  | .clear _ => inferInstanceAs (Decidable (_ = none))
  | .restart => isTrue trivial

/-- The file is a text of the list. -/
structure Inv (j : Json β) (s : State β) : Prop where
  absent : s.store.file = none → s.list = []
  read : ∀ data, s.store.file = some data → j.read data = .ok s.list
  carried : ∀ m ∈ s.list, j.Carries m
  durable : Durable s

section Runs

variable {j : Json β} {s t : State β} {a : Action β} {msgs : List (Stored β)}

theorem inv_init : Inv j ({} : State β) where
  absent _ := rfl
  read _ h := by simp at h
  carried _ h := by simp at h
  durable _ _ h := by simp at h

/-- A text of `msgs` in the file, and `msgs` as the list. -/
theorem inv_of_write (hj : j.Faithful) (hdur : Durable s)
    {store : FileStorage (Option (ClientStreamMessage β))} {data : Bytes}
    (hmar : j.marshal msgs = .ok data) (hfile : store.file = some data)
    (hmsgs : ∀ m ∈ msgs, j.Carries m) : Inv j ⟨store, msgs, s.loads⟩ where
  absent h := by simp [hfile] at h
  read data' h := by
    obtain rfl : data = data' := Option.some.inj (hfile.symm.trans h)
    exact hj.read_marshal hmar hmsgs
  carried := hmsgs
  durable := hdur

theorem exists_marshal (h : (j.marshal msgs).isOk = true) : ∃ data, j.marshal msgs = .ok data := by
  cases hmar : j.marshal msgs with
  | error err => simp [hmar, Except.isOk, Except.toBool] at h
  | ok data => exact ⟨data, rfl⟩

theorem inv_add {msg : Option (ClientStreamMessage β)} {now : Time} {writeErr : Option GoString}
    (hj : j.Faithful) (hi : Inv j s) (hg : InMemory j s (.add msg now writeErr)) :
    Inv j ⟨storeAfter j s.store (.add msg now writeErr), s.list ++ [⟨msg, now⟩], s.loads⟩ := by
  obtain ⟨rfl, hmemo, hcarries, hok⟩ := hg
  obtain ⟨data, hdata⟩ := exists_marshal hok
  refine inv_of_write hj hi.durable hdata ?_ ?_
  · simp [storeAfter, FileStorage.add, Json.codec, hmemo, hdata, FileStorage.writeFile]
  · intro m hm
    obtain hm | hm := List.mem_append.mp hm
    · exact hi.carried m hm
    · obtain rfl := List.mem_singleton.mp hm
      exact hcarries

theorem inv_save {messages : List (Stored β)} {writeErr : Option GoString} (hj : j.Faithful)
    (hi : Inv j s) (hg : InMemory j s (.save messages writeErr)) :
    Inv j ⟨storeAfter j s.store (.save messages writeErr), messages, s.loads⟩ := by
  obtain ⟨rfl, hcarries, hok⟩ := hg
  obtain ⟨data, hdata⟩ := exists_marshal hok
  refine inv_of_write hj hi.durable hdata ?_ hcarries
  simp [storeAfter, FileStorage.save, Json.codec, hdata, FileStorage.writeFile]

/-- `Load` returns the list, and leaves the file alone. -/
theorem load_eq (hj : j.Faithful) (hi : Inv j s)
    (hmemo : s.store.msgs = s.list ∨ ∀ m ∈ s.list, Bare m) :
    (s.store.load j.codec none).1 = .ok s.list ∧
      (s.store.load j.codec none).2.file = s.store.file := by
  cases hfile : s.store.file with
  | none => simp [FileStorage.load, hfile, hi.absent hfile]
  | some data =>
    have hdec : j.decodeInto s.store.msgs s.list = (none, s.list) := by
      obtain hmsgs | hbare := hmemo
      · rw [hmsgs]
        exact decodeInto_self hj hi.carried
      · exact decodeInto_bare hbare _
    simp [FileStorage.load, hfile, Json.codec, hi.read data hfile, hdec]

theorem inv_step (hj : j.Faithful) (hi : Inv j s) (hg : InMemory j s a)
    (h : step j s a = some t) : Inv j t := by
  cases h
  cases a with
  | add msg now writeErr => exact inv_add hj hi hg
  | save messages writeErr => exact inv_save hj hi hg
  | load readErr =>
    obtain ⟨rfl, hmemo⟩ := hg
    obtain ⟨hret, hfile⟩ := load_eq hj hi hmemo
    refine ⟨fun hnone => hi.absent (hfile ▸ hnone), fun data hdata => hi.read data (hfile ▸ hdata),
      hi.carried, fun returned list hmem => ?_⟩
    obtain hmem | hmem := List.mem_cons.mp hmem
    · obtain ⟨rfl, rfl⟩ := Prod.mk.inj hmem
      exact hret
    · exact hi.durable returned list hmem
  | clear writeErr =>
    obtain rfl := hg
    refine ⟨fun _ => rfl, fun data hdata => ?_, by simp [listAfter], hi.durable⟩
    obtain rfl : emptyJson = data := Option.some.inj hdata
    exact hj.read_empty
  | restart => exact ⟨hi.absent, hi.read, hi.carried, hi.durable⟩

end Runs

/-! ### A small JSON -/

def Kind.code : Kind → UInt8
  | agentLog => 2
  | agentEvent => 3
  | runRes => 4
  | stopComputationRes => 5
  | agentStateRes => 6
  | vTPMattestationReport => 7
  | azureAttestationToken => 8

def Kind.ofCode : UInt8 → Option Kind
  | 2 => some agentLog
  | 3 => some agentEvent
  | 4 => some runRes
  | 5 => some stopComputationRes
  | 6 => some agentStateRes
  | 7 => some vTPMattestationReport
  | 8 => some azureAttestationToken
  | _ => none

/-- Two bytes for a message whose content is a byte. -/
def encodeMessage : Option (ClientStreamMessage UInt8) → UInt8 × UInt8
  | none => (0, 0)
  | some ⟨none⟩ => (1, 0)
  | some ⟨some (kind, content)⟩ => (kind.code, content)

def decodeBytes (tag content : UInt8) : Option (Option (ClientStreamMessage UInt8)) :=
  if tag = 0 then some none
  else if tag = 1 then some (some ⟨none⟩)
  else (Kind.ofCode tag).map fun kind => some ⟨some (kind, content)⟩

/-- The messages with their times, each of them below 256, and the closing bracket. -/
def encodeAll : List (Stored UInt8) → Option Bytes
  | [] => some (lit "]")
  | m :: msgs =>
    if 0 ≤ m.time ∧ m.time < 256 then
      (encodeAll msgs).map fun rest =>
        (encodeMessage m.message).1 :: (encodeMessage m.message).2 ::
          UInt8.ofNat m.time.toNat :: rest
    else none

def decodeAll : Bytes → Option (List (Stored UInt8))
  | [_] => some []
  | tag :: content :: time :: rest => do
    let message ← decodeBytes tag content
    let msgs ← decodeAll rest
    return ⟨message, time.toNat⟩ :: msgs
  | _ => none

/-- Contents are carried as they are. -/
def sampleJson : Json UInt8 where
  marshal msgs :=
    match encodeAll msgs with
    | some data => .ok (lit "[" ++ data)
    | none => .error (lit "json: error calling MarshalJSON for type time.Time")
  read data :=
    match decodeAll data.tail with
    | some msgs => .ok msgs
    | none => .error (lit "unexpected end of JSON input")
  absorb _ _ new := new
  carries _ _ := true
  typeError := lit "json: cannot unmarshal object"

theorem decodeBytes_encodeMessage (m : Option (ClientStreamMessage UInt8)) :
    decodeBytes (encodeMessage m).1 (encodeMessage m).2 = some m := by
  match m with
  | none => rfl
  | some ⟨none⟩ => rfl
  | some ⟨some (kind, content)⟩ => cases kind <;> rfl

theorem toNat_ofNat_of_lt {time : Int} (hnonneg : 0 ≤ time) (hlt : time < 256) :
    ((UInt8.ofNat time.toNat).toNat : Int) = time := by
  rw [UInt8.toNat_ofNat']
  omega

theorem decodeAll_encodeAll {msgs : List (Stored UInt8)} {data : Bytes}
    (h : encodeAll msgs = some data) : decodeAll data = some msgs := by
  induction msgs generalizing data with
  | nil =>
    cases h
    rfl
  | cons m msgs ih =>
    simp only [encodeAll, Option.ite_none_right_eq_some, Option.map_eq_some_iff] at h
    obtain ⟨⟨hnonneg, hlt⟩, rest, hrest, rfl⟩ := h
    simp only [decodeAll, decodeBytes_encodeMessage, ih hrest, Option.bind_eq_bind,
      Option.bind_some, Option.pure_def, toNat_ofNat_of_lt hnonneg hlt]

theorem sampleJson_faithful : sampleJson.Faithful where
  read_marshal {msgs data} h _ := by
    simp only [sampleJson] at h ⊢
    cases hdata : encodeAll msgs with
    | none => simp [hdata] at h
    | some text =>
      rw [hdata] at h
      cases h
      simp [lit, decodeAll_encodeAll hdata]
  read_empty := rfl
  absorb_self _ := rfl

/-- For every sequence of operations and restarts: if at every `Add` and `Load` the process has
the messages of the list in memory, every `Load` returns the messages of the list. -/
theorem durable_of_run (j : Json β) (hj : j.Faithful) (as : List (Action β)) (s : State β)
    (hguard : Lib.Guarded (step j) (InMemory j) {} as)
    (hrun : Lib.run (step j) {} as = some s) : Durable s :=
  (Lib.invariant_of_run (inv_step hj) inv_init hguard hrun).durable

/-- The responses of two runs. -/
def response (content : UInt8) : Option (ClientStreamMessage UInt8) :=
  some ⟨some (.runRes, content)⟩

/-- What has been loaded after some operations, with the list at each time. -/
def loaded (as : List (Action UInt8)) :
    Option (List (Except GoString (List (Stored UInt8)) × List (Stored UInt8))) :=
  (Lib.run (step sampleJson) {} as).map (·.loads)

/-- Over restarts, messages that are saved or cleared first are loaded. -/
theorem durable_sample : ∃ s,
    Lib.run (step sampleJson) {} [.add (response 7) 1 none, .load none, .restart,
        .save [⟨response 8, 2⟩] none, .add (response 9) 3 none, .load none, .restart,
        .clear none, .load none] = some s ∧
      s.loads.length = 3 ∧ Durable s := by
  have h : (Lib.run (step sampleJson) {} [.add (response 7) 1 none, .load none, .restart,
      .save [⟨response 8, 2⟩] none, .add (response 9) 3 none, .load none, .restart,
      .clear none, .load none]).map (·.loads.length) = some 3 := by
    rfl
  obtain ⟨s, hrun, hs⟩ := Option.map_eq_some_iff.mp h
  exact ⟨s, hrun, hs, durable_of_run sampleJson sampleJson_faithful _ s (by decide) hrun⟩

/-- After a restart `Load` fails, an `Add` overwrites the file, and an `Add` after the failed
`Load` stores the first message without its content. -/
theorem loaded_wrong :
    loaded [.add (response 7) 1 none, .restart, .load none] =
      some [(.error sampleJson.typeError, [⟨response 7, 1⟩])] ∧
    loaded [.add (response 7) 1 none, .restart, .add (response 8) 2 none, .load none] =
      some [(.ok [⟨response 8, 2⟩], [⟨response 7, 1⟩, ⟨response 8, 2⟩])] ∧
    (loaded [.add (response 7) 1 none, .restart, .load none, .add (response 8) 2 none,
      .load none]).bind (·.head?) =
      some (.ok [⟨some ⟨none⟩, 1⟩, ⟨response 8, 2⟩], [⟨response 7, 1⟩, ⟨response 8, 2⟩]) := by
  exact ⟨rfl, rfl, rfl⟩

end SecureBinding.Agent.MessageStore
