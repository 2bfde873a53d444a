import DiskQuery.Proofs.Client.Trace

/-!
# Readings of a description

What the reading of a key comes to is told by the answers to its calls.  An
entry that is not there is no error.  An entry that breaks the promise of its
key is one, and the first thing that is wrong with it decides which.

There are three groups.

* Breaches.  `Breach` lists what can be wrong with an entry, and `ReadsBoolean`
  and `ReadsText` list the calls of a reading with what they come to.
* Clients that tell.  `Tells` relates the result of a client to its calls, over
  every service that answers all of them.  It is closed under `andThen` and
  under owning a reference.
* Runs.  `run_text` is the run of a reading whose four calls have an answer.
-/

namespace DiskQuery

open Client

variable {ρ σ α β γ : Type}

/-! ## Breaches -/

/-- What is wrong with an entry. -/
inductive Breach where
  /-- The value is no boolean. -/
  | notBoolean
  /-- The value is no text. -/
  | notText
  /-- The text has no size. -/
  | negativeSize
  /-- The copy of the text fails. -/
  | copyFailed
  /-- Nothing ends the text in the buffer. -/
  | unended
  /-- The bytes before the first zero byte are not UTF-8. -/
  | illFormed (defect : Text.Utf8.Defect)
deriving DecidableEq, Repr

/-- The error that a breach in the entry of a key leads to. -/
def Breach.error (key : Key) : Breach → QueryError
  | notBoolean => .unexpectedType key "boolean"
  | notText => .unexpectedType key "string"
  | negativeSize => .stringConversion key
  | copyFailed => .stringConversion key
  | unended => .stringConversion key
  | illFormed defect => .invalidUtf8 key defect

/-- The calls that read a boolean, and what they come to. -/
inductive ReadsBoolean (dictionary : ρ) (key : Key) :
    List (Exchange ρ) → Except Breach (Option Bool) → Prop where
  | absent : ReadsBoolean dictionary key [⟨.value dictionary key, .ok none⟩] (.ok none)
  | notBoolean {value : ρ} : ReadsBoolean dictionary key
      [⟨.value dictionary key, .ok (some value)⟩, ⟨.boolean value, .ok none⟩]
      (.error .notBoolean)
  | boolean {value : ρ} {truth : Bool} : ReadsBoolean dictionary key
      [⟨.value dictionary key, .ok (some value)⟩, ⟨.boolean value, .ok (some truth)⟩]
      (.ok (some truth))

/-- The calls of a reading that gets as far as the copy of the text. -/
def copying (dictionary : ρ) (key : Key) (value : ρ) (length size : Int)
    (copied : Bool × List UInt8) : List (Exchange ρ) :=
  [⟨.value dictionary key, .ok (some value)⟩, ⟨.textLength value, .ok (some length)⟩,
    ⟨.maxSize length, .ok size⟩,
    ⟨.copyText value (List.replicate (size.toNat + 1) 0), .ok copied⟩]

/-- The calls that read a text, and what they come to. -/
inductive ReadsText (dictionary : ρ) (key : Key) :
    List (Exchange ρ) → Except Breach (Option String) → Prop where
  | absent : ReadsText dictionary key [⟨.value dictionary key, .ok none⟩] (.ok none)
  | notText {value : ρ} : ReadsText dictionary key
      [⟨.value dictionary key, .ok (some value)⟩, ⟨.textLength value, .ok none⟩]
      (.error .notText)
  | negativeSize {value : ρ} {length size : Int} (hsize : size < 0) :
      ReadsText dictionary key
        [⟨.value dictionary key, .ok (some value)⟩, ⟨.textLength value, .ok (some length)⟩,
          ⟨.maxSize length, .ok size⟩]
        (.error .negativeSize)
  | copyFailed {value : ρ} {length size : Int} {buffer : List UInt8} (hsize : 0 ≤ size) :
      ReadsText dictionary key (copying dictionary key value length size (false, buffer))
        (.error .copyFailed)
  | unended {value : ρ} {length size : Int} {buffer : List UInt8} (hsize : 0 ≤ size)
      (hzero : 0 ∉ buffer) :
      ReadsText dictionary key (copying dictionary key value length size (true, buffer))
        (.error .unended)
  | illFormed {value : ρ} {length size : Int} {buffer : List UInt8}
      {defect : Text.Utf8.Defect} (hsize : 0 ≤ size) (hzero : 0 ∈ buffer)
      (hbytes : Text.Utf8.decode (buffer.takeWhile (· ≠ 0)) = .error defect) :
      ReadsText dictionary key (copying dictionary key value length size (true, buffer))
        (.error (.illFormed defect))
  | text {value : ρ} {length size : Int} {buffer : List UInt8} {text : List Char}
      (hsize : 0 ≤ size) (hzero : 0 ∈ buffer)
      (hbytes : Text.Utf8.decode (buffer.takeWhile (· ≠ 0)) = .ok text) :
      ReadsText dictionary key (copying dictionary key value length size (true, buffer))
        (.ok (some (String.ofList text)))

/-! ## Clients that tell -/

/-- Every call of the service has an answer. -/
def Service.Answers (service : Service ρ σ) : Prop :=
  ∀ call state, ∃ a, (service.answer call state).1 = .ok a

namespace Client

/-- Over a service that answers every call the client ends with a result, and
its calls tell which. -/
def Tells (spec : List (Exchange ρ) → α → Prop) (client : Client ρ α) : Prop :=
  ∀ (σ : Type) (service : Service ρ σ), service.Answers → ∀ state, ∃ result,
    (client.run service state).outcome = .ok result ∧
      spec (client.run service state).exchanges result

theorem tells_pure {spec : List (Exchange ρ) → α → Prop} {a : α} (h : spec [] a) :
    Tells spec (pure a) :=
  fun _ _ _ _ => ⟨a, rfl, h⟩

theorem Tells.imp {first spec : List (Exchange ρ) → α → Prop} {client : Client ρ α}
    (h : Tells first client) (himp : ∀ trace a, first trace a → spec trace a) :
    Tells spec client := by
  intro σ service hservice state
  obtain ⟨result, hresult, hfirst⟩ := h σ service hservice state
  exact ⟨result, hresult, himp _ _ hfirst⟩

theorem Tells.report {spec : List (Exchange ρ) → α → Prop} {next : Client ρ α}
    (h : Tells spec next) (event : Event ρ) : Tells spec (.report event next) :=
  fun σ service hservice state => h σ service hservice state

theorem Tells.bind {first : List (Exchange ρ) → α → Prop} {spec : List (Exchange ρ) → β → Prop}
    {client : Client ρ α} {next : α → Client ρ β} (hclient : Tells first client)
    (hnext : ∀ trace a, first trace a → Tells (fun rest => spec (trace ++ rest)) (next a)) :
    Tells spec (client >>= next) := by
  intro σ service hservice state
  obtain ⟨a, houtcome, hfirst⟩ := hclient σ service hservice state
  obtain ⟨result, hresult, hspec⟩ :=
    hnext _ a hfirst σ service hservice (client.run service state).state
  refine ⟨result, ?_, ?_⟩
  · rw [run_bind_of_ok _ houtcome]
    exact hresult
  · rw [exchanges_bind_of_ok _ houtcome]
    exact hspec

/-- A call comes before the calls that follow its answer. -/
theorem tells_perform {spec : List (Exchange ρ) → α → Prop} {call : Call ρ}
    {next : call.Answer → Client ρ α}
    (h : ∀ a, Tells (fun rest => spec (⟨call, .ok a⟩ :: rest)) (next a)) :
    Tells spec (perform call >>= next) := by
  have hcall : Tells (fun trace a => trace = [⟨call, .ok a⟩]) (perform call) := by
    intro σ service hservice state
    obtain ⟨a, ha⟩ := hservice call state
    refine ⟨a, ha, ?_⟩
    change [_] = [_]
    rw [ha]
  refine hcall.bind fun trace a htrace => ?_
  subst htrace
  exact h a

/-- An error of the first client is the last word. -/
theorem Tells.andThen {ε : Type} {first : List (Exchange ρ) → Except ε α → Prop}
    {spec : List (Exchange ρ) → Except ε β → Prop} {client : Client ρ (Except ε α)}
    {next : α → Client ρ (Except ε β)} (hclient : Tells first client)
    (herror : ∀ trace error, first trace (.error error) → spec trace (.error error))
    (hok : ∀ trace a, first trace (.ok a) → Tells (fun rest => spec (trace ++ rest)) (next a)) :
    Tells spec (client.andThen next) := by
  refine hclient.bind fun trace result hfirst => ?_
  cases result with
  | ok a => exact hok trace a hfirst
  | error error =>
    apply tells_pure
    rw [List.append_nil]
    exact herror trace error hfirst

/-- A reference that is created is given back after the body. -/
theorem Tells.owning {spec : List (Exchange ρ) → α → Prop} {call : Call ρ} {owner : γ → Guard ρ}
    {create : Client ρ (Option γ)} {absent : Client ρ α} {within : γ → Client ρ α}
    (hcreate : Acquires call owner create)
    (hnone : ∀ a, (⟨call, .ok a⟩ : Exchange ρ).acquired? = none →
      Tells (fun rest => spec (⟨call, .ok a⟩ :: rest)) absent)
    (hsome : ∀ a held, (⟨call, .ok a⟩ : Exchange ρ).acquired? = some (owner held).reference →
      Tells (fun inner => spec (⟨call, .ok a⟩ ::
        (inner ++ [⟨.release (owner held).reference, .ok ()⟩]))) (within held)) :
    Tells spec (Guard.owning create owner absent within) := by
  intro σ service hservice state
  obtain ⟨a, ha⟩ := hservice call state
  obtain ⟨hexchanges, hstate, hacquired, hfault⟩ := hcreate service state
  rw [ha] at hexchanges hacquired hfault
  rw [Guard.owning]
  cases houtcome : (create.run service state).outcome with
  | error fault => cases hfault fault houtcome
  | ok created =>
    rw [houtcome] at hacquired
    cases created with
    | none =>
      obtain ⟨result, hresult, hspec⟩ :=
        hnone a hacquired σ service hservice (create.run service state).state
      refine ⟨result, ?_, ?_⟩
      · rw [run_bind_of_ok _ houtcome]
        exact hresult
      · rw [exchanges_bind_of_ok _ houtcome, hexchanges]
        exact hspec
    | some held =>
      obtain ⟨result, hresult, hspec⟩ :=
        hsome a held hacquired σ service hservice (create.run service state).state
      obtain ⟨u, hu⟩ := hservice (.release (owner held).reference)
        ((within held).run service (create.run service state).state).state
      refine ⟨result, ?_, ?_⟩
      · rw [run_bind_of_ok _ houtcome]
        change (((owner held).holding (within held)).run service _).outcome = _
        rw [run_holding]
        simp only [hresult, hu]
        rfl
      · rw [exchanges_bind_of_ok _ houtcome, hexchanges, exchanges_holding, hu]
        exact hspec

end Client

theorem tells_boolean (description : Description ρ) (key : Key) :
    Tells (fun trace result => ∃ read, ReadsBoolean description.guard.reference key trace read ∧
      result = read.mapError (Breach.error key)) (description.boolean key) := by
  refine tells_perform fun value => ?_
  cases value with
  | none => exact tells_pure ⟨_, .absent, rfl⟩
  | some value =>
    refine tells_perform fun truth => ?_
    cases truth with
    | none => exact tells_pure ⟨_, .notBoolean, rfl⟩
    | some truth => exact tells_pure ⟨_, .boolean, rfl⟩

/-- The copy of a text ends the reading, and the buffer tells how. -/
theorem readsText_textInBuffer {dictionary value : ρ} {key : Key} {length size : Int}
    (hsize : 0 ≤ size) (buffer : List UInt8) :
    ∃ read, ReadsText dictionary key (copying dictionary key value length size (true, buffer))
        read ∧
      (textInBuffer key buffer).map some = read.mapError (Breach.error key) := by
  unfold textInBuffer
  split
  case isTrue hzero =>
    cases hbytes : Text.Utf8.decode (buffer.takeWhile (· ≠ 0)) with
    | ok text => exact ⟨_, .text hsize hzero hbytes, rfl⟩
    | error defect => exact ⟨_, .illFormed hsize hzero hbytes, rfl⟩
  case isFalse hzero => exact ⟨_, .unended hsize hzero, rfl⟩

theorem tells_text (description : Description ρ) (key : Key) :
    Tells (fun trace result => ∃ read, ReadsText description.guard.reference key trace read ∧
      result = read.mapError (Breach.error key)) (description.text key) := by
  refine tells_perform fun value => ?_
  cases value with
  | none => exact tells_pure ⟨_, .absent, rfl⟩
  | some value =>
    refine tells_perform fun length => ?_
    cases length with
    | none => exact tells_pure ⟨_, .notText, rfl⟩
    | some length =>
      refine tells_perform fun size => ?_
      by_cases hsize : size < 0
      · rw [bufferSize?, if_pos hsize]
        exact tells_pure ⟨_, .negativeSize hsize, rfl⟩
      · rw [bufferSize?, if_neg hsize]
        have hsize : 0 ≤ size := Int.not_lt.1 hsize
        refine tells_perform fun copied => ?_
        rcases copied with ⟨_ | _, buffer⟩
        · exact tells_pure ⟨_, .copyFailed hsize, rfl⟩
        · exact tells_pure (readsText_textInBuffer hsize buffer)

/-! ## Runs -/

theorem run_perform_of_ok {service : Service ρ σ} {call : Call ρ} {state after : σ}
    {a : call.Answer} (next : call.Answer → Client ρ β)
    (h : service.answer call state = (.ok a, after)) :
    (perform call >>= next).run service state =
      ((next a).run service after).after (.asked call (.ok a)) := by
  rw [perform_bind, run, h]

/-- A reading that gets as far as the copy of the text comes to what the copy
left in the buffer. -/
theorem run_text {description : Description ρ} {key : Key} {service : Service ρ σ}
    {state afterValue afterLength afterSize afterCopy : σ} {value : ρ} {length size : Int}
    {copied : Bool} {buffer : List UInt8}
    (hvalue : service.answer (.value description.guard.reference key) state =
      (.ok (some value), afterValue))
    (hlength : service.answer (.textLength value) afterValue = (.ok (some length), afterLength))
    (hmaxSize : service.answer (.maxSize length) afterLength = (.ok size, afterSize))
    (hsize : 0 ≤ size)
    (hcopy : service.answer (.copyText value (List.replicate (size.toNat + 1) 0)) afterSize =
      (.ok (copied, buffer), afterCopy)) :
    ((description.text key).run service state).outcome =
        .ok (if copied then (textInBuffer key buffer).map some
          else .error (.stringConversion key)) ∧
      ((description.text key).run service state).state = afterCopy ∧
      ((description.text key).run service state).exchanges =
        copying description.guard.reference key value length size (copied, buffer) := by
  have hroom : bufferSize? size = some (size.toNat + 1) := if_neg (Int.not_lt.2 hsize)
  rw [Description.text, run_perform_of_ok _ hvalue]
  dsimp only
  rw [run_perform_of_ok _ hlength]
  dsimp only
  rw [run_perform_of_ok _ hmaxSize, hroom]
  dsimp only
  rw [run_perform_of_ok _ hcopy]
  cases copied <;> exact ⟨rfl, rfl, rfl⟩

end DiskQuery
