import DiskQuery.Proofs.Client.Trace
import Mathlib.Data.List.Forall2
import Mathlib.Logic.Relator
import Mathlib.Order.Basic

/-!
# One client over two services

A client never looks into a reference.  Over two services that answer alike,
whatever they hand out as references, it makes the same calls and comes to the
same end.

There are four groups.

* Records.  Calls, answers and events that are the same but for the references.
  Which reference stands for which is a relation, and it grows as references
  are handed out.
* Clients.  `Client.Alike` compares two clients along every branch that they can
  take together.  It is closed under `attempt` and `bind`, and `alike_query`
  says that a query is the same client over any references.
* Services.  `Simulates` compares two services call by call, and
  `Simulates.run` the runs of alike clients over them.
* Footprints.  What a run does to a service, with kinds in place of references,
  is the same for alike runs (`footprint_eq`).
-/

namespace DiskQuery

variable {ρ τ σ υ α β γ δ : Type}

/-! ## Records -/

/-- Both broke off, or both ended with related results. -/
inductive OutcomesAlike (post : α → β → Prop) : Except Fault α → Except Fault β → Prop where
  | ok {a : α} {b : β} (h : post a b) : OutcomesAlike post (.ok a) (.ok b)
  | fault (first second : Fault) : OutcomesAlike post (.error first) (.error second)

theorem OutcomesAlike.imp {post after : α → β → Prop} {first : Except Fault α}
    {second : Except Fault β} (h : OutcomesAlike post first second)
    (himp : ∀ a b, post a b → after a b) : OutcomesAlike after first second := by
  cases h with
  | ok h => exact .ok (himp _ _ h)
  | fault first second => exact .fault first second

/-- Calls that are the same but for the references. -/
inductive Call.Alike (pairs : ρ → τ → Prop) : Call ρ → Call τ → Prop where
  | createSession : Alike pairs .createSession .createSession
  | createDisk {r : ρ} {t : τ} (h : pairs r t) (name : DeviceName) :
      Alike pairs (.createDisk r name) (.createDisk t name)
  | copyDescription {r : ρ} {t : τ} (h : pairs r t) :
      Alike pairs (.copyDescription r) (.copyDescription t)
  | value {r : ρ} {t : τ} (h : pairs r t) (key : Key) :
      Alike pairs (.value r key) (.value t key)
  | boolean {r : ρ} {t : τ} (h : pairs r t) : Alike pairs (.boolean r) (.boolean t)
  | textLength {r : ρ} {t : τ} (h : pairs r t) : Alike pairs (.textLength r) (.textLength t)
  | maxSize (length : Int) : Alike pairs (.maxSize length) (.maxSize length)
  | copyText {r : ρ} {t : τ} (h : pairs r t) (buffer : List UInt8) :
      Alike pairs (.copyText r buffer) (.copyText t buffer)
  | release {r : ρ} {t : τ} (h : pairs r t) : Alike pairs (.release r) (.release t)

/-- Answers to such calls that are the same but for the references. -/
def AnswersAlike (pairs : ρ → τ → Prop) :
    (call : Call ρ) → (other : Call τ) → call.Answer → other.Answer → Prop
  | .createSession, .createSession => Option.Rel pairs
  | .createDisk _ _, .createDisk _ _ => Option.Rel pairs
  | .copyDescription _, .copyDescription _ => Option.Rel pairs
  | .value _ _, .value _ _ => Option.Rel pairs
  | .boolean _, .boolean _ => Eq
  | .textLength _, .textLength _ => Eq
  | .maxSize _, .maxSize _ => Eq
  | .copyText _ _, .copyText _ _ => Eq
  | .release _, .release _ => Eq
  | _, _ => fun _ _ => False

/-- Calls with their answers, the same but for the references. -/
structure Exchange.Alike (pairs : ρ → τ → Prop) (first : Exchange ρ) (second : Exchange τ) :
    Prop where
  call : first.call.Alike pairs second.call
  answer : OutcomesAlike (AnswersAlike pairs first.call second.call) first.answer second.answer

/-- Events that are the same but for the references. -/
inductive Event.Alike (pairs : ρ → τ → Prop) : Event ρ → Event τ → Prop where
  | acquired {r : ρ} {t : τ} (h : pairs r t) : Alike pairs (.acquired r) (.acquired t)
  | releasing {r : ρ} {t : τ} (h : pairs r t) : Alike pairs (.releasing r) (.releasing t)
  | sessionUnavailable : Alike pairs .sessionUnavailable .sessionUnavailable
  | noSuchDisk (name : DeviceName) : Alike pairs (.noSuchDisk name) (.noSuchDisk name)
  | noDescription : Alike pairs .noDescription .noDescription
  | resolved (name : DeviceName) : Alike pairs (.resolved name) (.resolved name)

/-- Alike events are one line in a log without reference numbers. -/
theorem Event.Alike.line_eq {pairs : ρ → τ → Prop} {first : Event ρ} {second : Event τ}
    (h : first.Alike pairs second) : first.line unnumbered = second.line unnumbered := by
  cases h <;> rfl

namespace Client

/-- Actions that are the same but for the references. -/
inductive Action.Alike (pairs : ρ → τ → Prop) : Action ρ → Action τ → Prop where
  | reported {first : Event ρ} {second : Event τ} (h : first.Alike pairs second) :
      Alike pairs (.reported first) (.reported second)
  | asked {call : Call ρ} {other : Call τ} {a : Except Fault call.Answer}
      {b : Except Fault other.Answer} (h : Exchange.Alike pairs ⟨call, a⟩ ⟨other, b⟩) :
      Alike pairs (.asked call a) (.asked other b)

end Client

/-! ### More pairs -/

section Mono

variable {pairs more : ρ → τ → Prop} (hle : pairs ≤ more)

include hle

theorem Call.Alike.mono {call : Call ρ} {other : Call τ} (h : call.Alike pairs other) :
    call.Alike more other := by
  cases h with
  | createSession => exact .createSession
  | createDisk h name => exact .createDisk (hle _ _ h) name
  | copyDescription h => exact .copyDescription (hle _ _ h)
  | value h key => exact .value (hle _ _ h) key
  | boolean h => exact .boolean (hle _ _ h)
  | textLength h => exact .textLength (hle _ _ h)
  | maxSize length => exact .maxSize length
  | copyText h buffer => exact .copyText (hle _ _ h) buffer
  | release h => exact .release (hle _ _ h)

theorem optionRel_mono {a : Option ρ} {b : Option τ} (h : Option.Rel pairs a b) :
    Option.Rel more a b := by
  cases h with
  | none => exact .none
  | some h => exact .some (hle _ _ h)

theorem answersAlike_mono {call : Call ρ} {other : Call τ} (hcall : call.Alike pairs other)
    {a : call.Answer} {b : other.Answer} (h : AnswersAlike pairs call other a b) :
    AnswersAlike more call other a b := by
  cases hcall with
  | createSession | createDisk | copyDescription | value => exact optionRel_mono hle h
  | boolean | textLength | maxSize | copyText | release => exact h

theorem Exchange.Alike.mono {first : Exchange ρ} {second : Exchange τ}
    (h : first.Alike pairs second) : first.Alike more second :=
  ⟨h.call.mono hle, h.answer.imp fun _ _ => answersAlike_mono hle h.call⟩

theorem Event.Alike.mono {first : Event ρ} {second : Event τ} (h : first.Alike pairs second) :
    first.Alike more second := by
  cases h with
  | acquired h => exact .acquired (hle _ _ h)
  | releasing h => exact .releasing (hle _ _ h)
  | sessionUnavailable => exact .sessionUnavailable
  | noSuchDisk name => exact .noSuchDisk name
  | noDescription => exact .noDescription
  | resolved name => exact .resolved name

end Mono

/-- The pairs, and one more. -/
def With (pairs : ρ → τ → Prop) (r : ρ) (t : τ) : ρ → τ → Prop :=
  fun r' t' => pairs r' t' ∨ r' = r ∧ t' = t

theorem le_with (pairs : ρ → τ → Prop) (r : ρ) (t : τ) : pairs ≤ With pairs r t :=
  fun _ _ => .inl

/-- References that are paired with nothing else may be paired. -/
theorem biUnique_with {pairs : ρ → τ → Prop} (h : Relator.BiUnique pairs) {r : ρ} {t : τ}
    (hr : ∀ t', pairs r t' → t' = t) (ht : ∀ r', pairs r' t → r' = r) :
    Relator.BiUnique (With pairs r t) := by
  constructor
  · rintro first second other (hfirst | ⟨rfl, rfl⟩) (hsecond | ⟨rfl, hother⟩)
    · exact h.1 hfirst hsecond
    · exact ht _ (hother ▸ hfirst)
    · exact (ht _ hsecond).symm
    · rfl
  · rintro other first second (hfirst | ⟨rfl, rfl⟩) (hsecond | ⟨hother, rfl⟩)
    · exact h.2 hfirst hsecond
    · exact hr _ (hother ▸ hfirst)
    · exact (hr _ hsecond).symm
    · rfl

/-! ## Clients -/

namespace Client

/-- Clients that make alike calls and report alike events, and end alike, for as
long as they get alike answers.  An answer may bring new pairs, so a client is
compared under all pairs that may be known by then.  Results are compared by
`post`, under the pairs that are known at the end. -/
inductive Alike (post : (ρ → τ → Prop) → α → β → Prop) :
    (ρ → τ → Prop) → Client ρ α → Client τ β → Prop where
  | done {pairs : ρ → τ → Prop} {first : Except Fault α} {second : Except Fault β}
      (h : OutcomesAlike (post pairs) first second) : Alike post pairs (.done first) (.done second)
  | report {pairs : ρ → τ → Prop} {first : Event ρ} {second : Event τ} {next : Client ρ α}
      {next' : Client τ β} (hevent : first.Alike pairs second)
      (hnext : Alike post pairs next next') :
      Alike post pairs (.report first next) (.report second next')
  | ask {pairs : ρ → τ → Prop} {call : Call ρ} {other : Call τ}
      {resume : Except Fault call.Answer → Client ρ α}
      {resume' : Except Fault other.Answer → Client τ β} (hcall : call.Alike pairs other)
      (hresume : ∀ more, pairs ≤ more → ∀ a b, OutcomesAlike (AnswersAlike more call other) a b →
        Alike post more (resume a) (resume' b)) :
      Alike post pairs (.ask call resume) (.ask other resume')

variable {post : (ρ → τ → Prop) → α → β → Prop} {pairs : ρ → τ → Prop}

theorem alike_pure {a : α} {b : β} (h : post pairs a b) :
    Alike post pairs (pure a) (pure b) :=
  .done (.ok h)

/-- Going on from alike ends. -/
theorem Alike.attempt {after : (ρ → τ → Prop) → γ → δ → Prop} {client : Client ρ α}
    {client' : Client τ β} {next : Except Fault α → Client ρ γ}
    {next' : Except Fault β → Client τ δ} (h : Alike post pairs client client')
    (hnext : ∀ more, pairs ≤ more → ∀ a b, OutcomesAlike (post more) a b →
      Alike after more (next a) (next' b)) :
    Alike after pairs (client.attempt next) (client'.attempt next') := by
  -- the pairs grow along the tree, so what follows is compared under the last ones
  induction h with
  | done houtcome => exact hnext _ le_rfl _ _ houtcome
  | report hevent _ ih => exact .report hevent (ih hnext)
  | ask hcall _ ih =>
    refine .ask hcall fun more hle a b hanswer => ?_
    exact ih more hle a b hanswer fun wider hwider => hnext wider (hle.trans hwider)

theorem Alike.bind {after : (ρ → τ → Prop) → γ → δ → Prop} {client : Client ρ α}
    {client' : Client τ β} {next : α → Client ρ γ} {next' : β → Client τ δ}
    (h : Alike post pairs client client')
    (hnext : ∀ more, pairs ≤ more → ∀ a b, post more a b → Alike after more (next a) (next' b)) :
    Alike after pairs (client >>= next) (client' >>= next') := by
  refine h.attempt fun more hle a b houtcome => ?_
  cases houtcome with
  | ok hpost => exact hnext more hle _ _ hpost
  | fault first second => exact .done (.fault first second)

/-- A call, and what goes on with its answer. -/
theorem alike_perform {call : Call ρ} {other : Call τ} (h : call.Alike pairs other) :
    Alike (fun more => AnswersAlike more call other) pairs (perform call) (perform other) :=
  .ask h fun _ _ _ _ hanswer => .done hanswer

end Client

open Client

/-! ### Handles -/

/-- Handles of paired references. -/
def OwnersAlike (owner : γ → Guard ρ) (owner' : δ → Guard τ) (pairs : ρ → τ → Prop) :
    Option γ → Option δ → Prop :=
  Option.Rel fun held held' => pairs (owner held).reference (owner' held').reference

theorem alike_connect (pairs : ρ → τ → Prop) :
    Alike (OwnersAlike Session.guard Session.guard) pairs Session.connect Session.connect := by
  refine (alike_perform .createSession).bind fun more _ a b hanswer => ?_
  cases hanswer with
  | none => exact .report .sessionUnavailable (alike_pure .none)
  | some h => exact .report (.acquired h) (alike_pure (.some h))

theorem alike_adoptNew (pairs : ρ → τ → Prop) :
    Alike (OwnersAlike id id) pairs (do Guard.adopt (← perform .createSession))
      (do Guard.adopt (← perform .createSession)) := by
  refine (alike_perform .createSession).bind fun more _ a b hanswer => ?_
  cases hanswer with
  | none => exact alike_pure .none
  | some h => exact .report (.acquired h) (alike_pure (.some h))

theorem alike_resolve {pairs : ρ → τ → Prop} {session : Session ρ} {session' : Session τ}
    (h : pairs session.guard.reference session'.guard.reference) (name : DeviceName) :
    Alike (OwnersAlike Disk.guard Disk.guard) pairs (session.resolve name)
      (session'.resolve name) := by
  refine (alike_perform (.createDisk h name)).bind fun more _ a b hanswer => ?_
  cases hanswer with
  | none => exact .report (.noSuchDisk name) (alike_pure .none)
  | some h => exact .report (.acquired h) (alike_pure (.some h))

theorem alike_describe {pairs : ρ → τ → Prop} {disk : Disk ρ} {disk' : Disk τ}
    (h : pairs disk.guard.reference disk'.guard.reference) :
    Alike (OwnersAlike Description.guard Description.guard) pairs disk.describe
      disk'.describe := by
  refine (alike_perform (.copyDescription h)).bind fun more _ a b hanswer => ?_
  cases hanswer with
  | none => exact .report .noDescription (alike_pure .none)
  | some h => exact .report (.acquired h) (alike_pure (.some h))

/-- Results without references are alike if they are equal. -/
abbrev Same (_ : ρ → τ → Prop) : α → α → Prop := Eq

theorem alike_release {pairs : ρ → τ → Prop} {guard : Guard ρ} {guard' : Guard τ}
    (h : pairs guard.reference guard'.reference) :
    Alike Same pairs guard.release guard'.release :=
  .report (.releasing h) (alike_perform (.release h))

section Owning

variable {pairs : ρ → τ → Prop} {create : Client ρ (Option γ)} {create' : Client τ (Option δ)}
  {owner : γ → Guard ρ} {owner' : δ → Guard τ}

theorem alike_holding {guard : Guard ρ} {guard' : Guard τ} {body : Client ρ α}
    {body' : Client τ α} (hguard : pairs guard.reference guard'.reference)
    (hbody : Alike Same pairs body body') :
    Alike Same pairs (guard.holding body) (guard'.holding body') := by
  refine hbody.attempt fun more hle result result' hresult => ?_
  refine (alike_release (hle _ _ hguard)).attempt fun wider _ a b hreleased => ?_
  cases hresult with
  | fault first second => exact .done (.fault first second)
  | ok hsame =>
    cases hreleased with
    | ok => exact .done (.ok hsame)
    | fault first second => exact .done (.fault first second)

theorem alike_owning {absent : Client ρ α} {absent' : Client τ α} {within : γ → Client ρ α}
    {within' : δ → Client τ α} (hcreate : Alike (OwnersAlike owner owner') pairs create create')
    (habsent : ∀ more : ρ → τ → Prop, Alike Same more absent absent')
    (hwithin : ∀ (more : ρ → τ → Prop) held held',
      more (owner held).reference (owner' held').reference →
        Alike Same more (within held) (within' held')) :
    Alike Same pairs (Guard.owning create owner absent within)
      (Guard.owning create' owner' absent' within') := by
  refine hcreate.bind fun more _ a b hheld => ?_
  cases hheld with
  | none => exact habsent more
  | some hpair => exact alike_holding hpair (hwithin more _ _ hpair)

end Owning

/-! ### Readings -/

section Readings

variable {pairs : ρ → τ → Prop} {description : Description ρ} {description' : Description τ}
  (h : pairs description.guard.reference description'.guard.reference)

include h

theorem alike_boolean (key : Key) :
    Alike Same pairs (description.boolean key) (description'.boolean key) := by
  refine (alike_perform (.value h key)).bind fun more _ a b hvalue => ?_
  cases hvalue with
  | none => exact alike_pure rfl
  | some hpair =>
    refine (alike_perform (.boolean hpair)).bind fun _ _ truth truth' htruth => ?_
    obtain rfl : truth = truth' := htruth
    cases truth with
    | none => exact alike_pure rfl
    | some truth => exact alike_pure rfl

theorem alike_text (key : Key) :
    Alike Same pairs (description.text key) (description'.text key) := by
  refine (alike_perform (.value h key)).bind fun more _ a b hvalue => ?_
  cases hvalue with
  | none => exact alike_pure rfl
  | some hpair =>
    refine (alike_perform (.textLength hpair)).bind fun more hle length length' hlength => ?_
    obtain rfl : length = length' := hlength
    cases length with
    | none => exact alike_pure rfl
    | some length =>
      refine (alike_perform (.maxSize length)).bind fun wider hwider size size' hsize => ?_
      obtain rfl : size = size' := hsize
      have hvalue := hwider _ _ (hle _ _ hpair)
      cases bufferSize? size with
      | none => exact alike_pure rfl
      | some room =>
        refine (alike_perform (.copyText hvalue _)).bind fun _ _ copied copied' hcopied => ?_
        obtain rfl : copied = copied' := hcopied
        obtain ⟨_ | _, buffer⟩ := copied
        · exact alike_pure rfl
        · exact alike_pure rfl

end Readings

/-! ### Queries -/

theorem alike_andThen {ε : Type} {pairs : ρ → τ → Prop} {client : Client ρ (Except ε α)}
    {client' : Client τ (Except ε α)} {next : α → Client ρ (Except ε β)}
    {next' : α → Client τ (Except ε β)} (h : Alike Same pairs client client')
    (hnext : ∀ more, pairs ≤ more → ∀ a, Alike Same more (next a) (next' a)) :
    Alike Same pairs (client.andThen next) (client'.andThen next') := by
  refine h.bind fun more hle result result' hsame => ?_
  obtain rfl : result = result' := hsame
  cases result with
  | ok a => exact hnext more hle a
  | error error => exact alike_pure rfl

theorem alike_lookup {pairs : ρ → τ → Prop} {description : Description ρ}
    {description' : Description τ}
    (h : pairs description.guard.reference description'.guard.reference) (name : DeviceName) :
    Alike Same pairs (description.lookup name) (description'.lookup name) := by
  have hattributes : Alike Same pairs description.attributes description'.attributes := by
    rw [attributes_eq, attributes_eq]
    refine alike_andThen (alike_boolean h _) fun more hle removable => ?_
    refine alike_andThen (alike_text (hle _ _ h) _) fun wider hwider vendor => ?_
    refine alike_andThen (alike_text (hwider _ _ (hle _ _ h)) _) fun _ _ model => ?_
    exact alike_pure rfl
  refine alike_andThen hattributes fun _ _ attributes => ?_
  exact .report (.resolved name) (alike_pure rfl)

/-- A query is the same client over any references. -/
theorem alike_query (pairs : ρ → τ → Prop) (name : DeviceName) :
    Alike Same pairs (query name) (query name) := by
  rw [query_eq, query_eq]
  refine alike_owning (alike_connect pairs) (fun _ => alike_pure rfl) ?_
  intro more session session' hsession
  refine alike_owning (alike_resolve hsession name) (fun _ => alike_pure rfl) ?_
  intro more disk disk' hdisk
  refine alike_owning (alike_describe hdisk) (fun _ => alike_pure rfl) ?_
  intro more description description' hdescription
  exact alike_lookup hdescription name

/-! ## Services -/

/-- Services that answer alike calls alike in coupled states, and stay coupled. -/
def Simulates (service : Service ρ σ) (service' : Service τ υ)
    (coupled : (ρ → τ → Prop) → σ → υ → Prop) : Prop :=
  ∀ pairs state state' call other, coupled pairs state state' → call.Alike pairs other →
    ∃ more, pairs ≤ more ∧
      coupled more (service.answer call state).2 (service'.answer other state').2 ∧
      Exchange.Alike more ⟨call, (service.answer call state).1⟩
        ⟨other, (service'.answer other state').1⟩

/-- Runs that do the same and end alike, in coupled states. -/
structure RunsAlike (coupled : (ρ → τ → Prop) → σ → υ → Prop)
    (post : (ρ → τ → Prop) → α → β → Prop) (pairs : ρ → τ → Prop) (run : Run ρ σ α)
    (run' : Run τ υ β) : Prop where
  outcome : OutcomesAlike (post pairs) run.outcome run'.outcome
  state : coupled pairs run.state run'.state
  actions : List.Forall₂ (Action.Alike pairs) run.actions run'.actions

/-- Alike clients run alike over services that answer alike. -/
theorem Simulates.run {service : Service ρ σ} {service' : Service τ υ}
    {coupled : (ρ → τ → Prop) → σ → υ → Prop} (h : Simulates service service' coupled)
    {post : (ρ → τ → Prop) → α → β → Prop} {pairs : ρ → τ → Prop} {client : Client ρ α}
    {client' : Client τ β} (hclient : Alike post pairs client client') {state : σ} {state' : υ}
    (hstate : coupled pairs state state') :
    ∃ more, pairs ≤ more ∧
      RunsAlike coupled post more (client.run service state) (client'.run service' state') := by
  induction hclient generalizing state state' with
  | @done pairs first second houtcome => exact ⟨pairs, le_rfl, houtcome, hstate, .nil⟩
  | report hevent _ ih =>
    obtain ⟨more, hle, houtcome, hlast, hactions⟩ := ih hstate
    exact ⟨more, hle, houtcome, hlast, .cons (.reported (hevent.mono hle)) hactions⟩
  | ask hcall _ ih =>
    obtain ⟨more, hle, hnext, hexchange⟩ := h _ _ _ _ _ hstate hcall
    obtain ⟨wider, hwider, houtcome, hlast, hactions⟩ :=
      ih more hle _ _ hexchange.answer hnext
    exact ⟨wider, hle.trans hwider, houtcome, hlast,
      .cons (.asked (hexchange.mono hwider)) hactions⟩

section Actions

variable {pairs : ρ → τ → Prop} {actions : List (Action ρ)} {actions' : List (Action τ)}
  (h : List.Forall₂ (Action.Alike pairs) actions actions')

include h

/-- Alike runs make alike calls. -/
theorem forall₂_exchanges :
    List.Forall₂ (Exchange.Alike pairs) (actions.filterMap Action.exchange?)
      (actions'.filterMap Action.exchange?) := by
  induction h with
  | nil => exact .nil
  | cons haction _ ih =>
    cases haction with
    | reported => exact ih
    | asked hexchange => exact .cons hexchange ih

/-- Alike runs leave the same log. -/
theorem map_line_eq :
    (actions.filterMap Action.event?).map (Event.line Event.unnumbered) =
      (actions'.filterMap Action.event?).map (Event.line Event.unnumbered) := by
  induction h with
  | nil => rfl
  | cons haction _ ih =>
    cases haction with
    | reported hevent => exact congrArg₂ List.cons hevent.line_eq ih
    | asked => exact ih

end Actions

/-! ## Footprints -/

/-- What a native call does, with kinds in place of references. -/
inductive Effect where
  /-- Asks for an object of that kind, and gets one or none. -/
  | create (kind : Kind) (found : Bool)
  /-- Looks a key of a dictionary up. -/
  | lookUp (key : Key)
  /-- Copies a text into a buffer of that size. -/
  | copy (size : Nat)
  /-- Gives back what was created, if it was. -/
  | release (kind : Option Kind)
deriving DecidableEq, Repr

/-- What a call created, as a list. -/
def Exchange.creation (exchange : Exchange ρ) : List (ρ × Kind) :=
  (exchange.acquired?.bind fun reference =>
    exchange.call.creates?.map fun kind => (reference, kind)).toList

/-- References with their kinds, the same but for the references. -/
def CreationsAlike (pairs : ρ → τ → Prop) : List (ρ × Kind) → List (τ × Kind) → Prop :=
  List.Forall₂ fun first second => pairs first.1 second.1 ∧ first.2 = second.2

theorem isSome_eq_of_optionRel {pairs : ρ → τ → Prop} {a : Option ρ} {b : Option τ}
    (h : Option.Rel pairs a b) : a.isSome = b.isSome := by
  cases h <;> rfl

theorem Call.Alike.creates?_eq {pairs : ρ → τ → Prop} {call : Call ρ} {other : Call τ}
    (h : call.Alike pairs other) : call.creates? = other.creates? := by
  cases h <;> rfl

/-- What is given back is paired. -/
theorem Call.Alike.exists_pair {pairs : ρ → τ → Prop} {call : Call ρ} {other : Call τ}
    (h : call.Alike pairs other) {answer : Except Fault call.Answer} {r : ρ}
    (hreleased : (⟨call, answer⟩ : Exchange ρ).released? = some r) : ∃ t, pairs r t := by
  cases h with
  | release hpair =>
    cases hreleased
    exact ⟨_, hpair⟩
  | createSession | createDisk | copyDescription | value | boolean | textLength | maxSize
  | copyText => cases hreleased

theorem Exchange.Alike.acquired? {pairs : ρ → τ → Prop} {first : Exchange ρ}
    {second : Exchange τ} (h : first.Alike pairs second) :
    Option.Rel pairs first.acquired? second.acquired? := by
  obtain ⟨call, answer⟩ := first
  obtain ⟨other, answer'⟩ := second
  have hcall : call.Alike pairs other := h.call
  have hanswer : OutcomesAlike (AnswersAlike pairs call other) answer answer' := h.answer
  cases hcall with
  | createSession | createDisk | copyDescription =>
    cases hanswer with
    | ok hrel => exact hrel
    | fault => exact .none
  | value | boolean | textLength | maxSize | copyText | release => exact .none

theorem Exchange.Alike.creation {pairs : ρ → τ → Prop} {first : Exchange ρ}
    {second : Exchange τ} (h : first.Alike pairs second) :
    CreationsAlike pairs first.creation second.creation := by
  have hacquired := h.acquired?
  unfold Exchange.creation
  rw [h.call.creates?_eq]
  generalize first.acquired? = r at hacquired ⊢
  generalize second.acquired? = t at hacquired ⊢
  cases hacquired with
  | none => exact .nil
  | some hpair =>
    cases second.call.creates? with
    | none => exact .nil
    | some kind => exact .cons ⟨hpair, rfl⟩ .nil

section Footprint

variable [DecidableEq ρ] [DecidableEq τ]

/-- The effect of a call, after calls that created `created`. -/
def Exchange.effect? (created : List (ρ × Kind)) (exchange : Exchange ρ) : Option Effect :=
  match exchange.call with
  | .value _ key => some (.lookUp key)
  | .copyText _ buffer => some (.copy buffer.length)
  | .release reference => some (.release (created.lookup reference))
  | call => call.creates?.map fun kind => .create kind exchange.acquired?.isSome

/-- The effects of calls, after calls that created `created`. -/
def footprint (created : List (ρ × Kind)) : List (Exchange ρ) → List Effect
  | [] => []
  | exchange :: rest =>
      (exchange.effect? created).toList ++ footprint (exchange.creation ++ created) rest

variable {pairs : ρ → τ → Prop} (hunique : Relator.BiUnique pairs)

include hunique

/-- A reference has the kind that the reference paired with it has. -/
theorem lookup_created_eq {created : List (ρ × Kind)} {created' : List (τ × Kind)}
    (hcreated : CreationsAlike pairs created created') {r : ρ} {t : τ} (h : pairs r t) :
    created.lookup r = created'.lookup t := by
  induction hcreated with
  | nil => rfl
  | @cons first second _ _ hfirst _ ih =>
    rw [List.lookup_cons, List.lookup_cons, ih, hfirst.2]
    by_cases hr : r = first.1
    · subst hr
      have ht : t = second.1 := hunique.2 h hfirst.1
      rw [ht, beq_self_eq_true, beq_self_eq_true]
    · have ht : t ≠ second.1 := fun ht => hr (hunique.1 h (ht ▸ hfirst.1))
      rw [beq_false_of_ne hr, beq_false_of_ne ht]

theorem Exchange.Alike.effect?_eq {created : List (ρ × Kind)} {created' : List (τ × Kind)}
    (hcreated : CreationsAlike pairs created created') {first : Exchange ρ}
    {second : Exchange τ} (h : first.Alike pairs second) :
    first.effect? created = second.effect? created' := by
  have hfound := isSome_eq_of_optionRel h.acquired?
  obtain ⟨call, answer⟩ := first
  obtain ⟨other, answer'⟩ := second
  have hcall : call.Alike pairs other := h.call
  cases hcall with
  | createSession => simp only [Exchange.effect?, hfound, Call.creates?]
  | createDisk => simp only [Exchange.effect?, hfound, Call.creates?]
  | copyDescription => simp only [Exchange.effect?, hfound, Call.creates?]
  | release hpair => simp only [Exchange.effect?, lookup_created_eq hunique hcreated hpair]
  | value | boolean | textLength | maxSize | copyText => rfl

/-- Alike calls have the same effects, in the same order. -/
theorem footprint_eq {trace : List (Exchange ρ)} {trace' : List (Exchange τ)}
    (h : List.Forall₂ (Exchange.Alike pairs) trace trace') {created : List (ρ × Kind)}
    {created' : List (τ × Kind)} (hcreated : CreationsAlike pairs created created') :
    footprint created trace = footprint created' trace' := by
  induction h generalizing created created' with
  | nil => rfl
  | cons hexchange _ ih =>
    rw [footprint, footprint, hexchange.effect?_eq hunique hcreated,
      ih (List.rel_append hexchange.creation hcreated)]

end Footprint

end DiskQuery
