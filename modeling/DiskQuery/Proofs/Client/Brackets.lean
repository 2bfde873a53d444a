import DiskQuery.Proofs.Client.Trace

/-!
# Release discipline

A query acquires up to three references and gives each of them back, whatever
the service answers and wherever it breaks off.  Nothing is assumed about the
service: it may answer any call with anything, hand one reference out several
times, and break off in any call.  References are therefore told apart by the
call that handed them out and not by their value.

There are four groups.

* Traces.  `QueryTrace` is the shape of the calls of a query: three brackets,
  one inside the other, around the reading of a description.
* What the shape brings.  `Disciplined` runs a trace against the stack of the
  references that are owned.  `ReleasesAcquired` compares what is given back
  with what was handed out, and `ReleasesLast` says what may follow a call that
  broke off.
* Brackets of clients.  `bracket_owning` turns each `Guard.owning` into a
  bracket.
* The assembly.  `wellBracketed_query` is the result.
-/

namespace DiskQuery

open Client

variable {ρ σ α β γ : Type}

/-! ## Traces -/

/-- The calls of a bracket: `call` comes first, and what it hands out is owned
while the calls `within` are made, and is given back after them.  If it hands
nothing out, or breaks off, it is the only call. -/
inductive Bracket (call : Call ρ) (within : ρ → List (Exchange ρ) → Prop) :
    List (Exchange ρ) → Prop where
  | unowned {exchange : Exchange ρ} (hcall : exchange.call = call)
      (hnone : exchange.acquired? = none) : Bracket call within [exchange]
  | owned {exchange : Exchange ρ} {reference : ρ} {inner : List (Exchange ρ)}
      {answer : Except Fault Unit} (hcall : exchange.call = call)
      (hsome : exchange.acquired? = some reference) (hinner : within reference inner) :
      Bracket call within (exchange :: (inner ++ [⟨.release reference, answer⟩]))

/-- A call that reads the value `value`, or one about a length. -/
def OnValue (value : ρ) : Call ρ → Prop
  | .boolean v => v = value
  | .textLength v => v = value
  | .copyText v _ => v = value
  | .maxSize _ => True
  | _ => False

/-- The calls that read a key: a look-up, and calls on the value that it
found. -/
inductive KeyReads (dictionary : ρ) (key : Key) : List (Exchange ρ) → Prop where
  | absent {answer : Except Fault (Option ρ)} (hnone : ∀ value, answer ≠ .ok (some value)) :
      KeyReads dictionary key [⟨.value dictionary key, answer⟩]
  | found {value : ρ} {reads : List (Exchange ρ)}
      (hreads : ∀ exchange ∈ reads, OnValue value exchange.call) :
      KeyReads dictionary key (⟨.value dictionary key, .ok (some value)⟩ :: reads)

/-- The calls that read keys one after another, perhaps not all of them. -/
inductive Reads (dictionary : ρ) : List Key → List (Exchange ρ) → Prop where
  | stop {keys : List Key} : Reads dictionary keys []
  | next {key : Key} {keys : List Key} {first rest : List (Exchange ρ)}
      (hfirst : KeyReads dictionary key first) (hrest : Reads dictionary keys rest) :
      Reads dictionary (key :: keys) (first ++ rest)

/-- The reading of a description: the three keys in order, up to the first
call that breaks off. -/
def ReadsDescription (dictionary : ρ) (trace : List (Exchange ρ)) : Prop :=
  Reads dictionary [.mediaRemovable, .deviceVendor, .deviceModel] trace ∧
    trace.Pairwise fun exchange _ => ¬exchange.BrokeOff

/-- The calls of a query: a session, in it the disk of that name, in it the
description of the disk, and in it the reads. -/
def QueryTrace (name : DeviceName) : List (Exchange ρ) → Prop :=
  Bracket .createSession fun session =>
    Bracket (.createDisk session name) fun disk =>
      Bracket (.copyDescription disk) ReadsDescription

/-! ## What the shape brings -/

/-- The counted reference that a call works on. -/
def Call.subject? : Call ρ → Option ρ
  | .createDisk session _ => some session
  | .copyDescription disk => some disk
  | .value dictionary _ => some dictionary
  | .release reference => some reference
  | _ => none

/-- A trace that keeps to the stack `held` of owned references, the last one
acquired on top, and ends when the stack is empty.  A call works on an owned
reference and adds what it hands out.  A release takes the top away. -/
inductive Disciplined : List ρ → List (Exchange ρ) → Prop where
  | done : Disciplined [] []
  | use {held : List ρ} {exchange : Exchange ρ} {rest : List (Exchange ρ)}
      (hsubject : ∀ reference ∈ exchange.call.subject?, reference ∈ held)
      (hkept : exchange.released? = none)
      (hrest : Disciplined (exchange.acquired?.toList ++ held) rest) :
      Disciplined held (exchange :: rest)
  | release {held : List ρ} {reference : ρ} {answer : Except Fault Unit}
      {rest : List (Exchange ρ)} (hrest : Disciplined held rest) :
      Disciplined (reference :: held) (⟨.release reference, answer⟩ :: rest)

/-- A part of a disciplined trace that leaves the stack as it found it. -/
def Balanced (held : List ρ) (trace : List (Exchange ρ)) : Prop :=
  ∀ rest, Disciplined held rest → Disciplined held (trace ++ rest)

/-- A trace in which a call that broke off, or gave a reference back, is
followed by releases only. -/
def ReleasesLast (trace : List (Exchange ρ)) : Prop :=
  trace.Pairwise fun exchange later =>
    exchange.BrokeOff ∨ exchange.released?.isSome → later.released?.isSome

/-- The references that a trace gives back are those that it was handed, in
reverse order. -/
def ReleasesAcquired (trace : List (Exchange ρ)) : Prop :=
  trace.filterMap Exchange.released? = (trace.filterMap Exchange.acquired?).reverse

theorem released?_eq_none_of_call_ne {exchange : Exchange ρ}
    (h : ∀ reference, exchange.call ≠ .release reference) : exchange.released? = none := by
  obtain ⟨call, answer⟩ := exchange
  cases call <;> first | rfl | exact absurd rfl (h _)

theorem released?_eq_none_of_acquired? {exchange : Exchange ρ} {reference : ρ}
    (h : exchange.acquired? = some reference) : exchange.released? = none := by
  obtain ⟨call, answer⟩ := exchange
  cases call <;> first | rfl | simp [Exchange.acquired?] at h

theorem not_brokeOff_of_acquired? {exchange : Exchange ρ} {reference : ρ}
    (h : exchange.acquired? = some reference) : ¬exchange.BrokeOff := by
  obtain ⟨call, answer⟩ := exchange
  rintro ⟨fault, hfault⟩
  change answer = .error fault at hfault
  subst hfault
  cases call <;> simp [Exchange.acquired?] at h

/-- A call that hands nothing out and gives nothing back leaves the stack. -/
theorem balanced_cons {held : List ρ} {exchange : Exchange ρ} {trace : List (Exchange ρ)}
    (hsubject : ∀ reference ∈ exchange.call.subject?, reference ∈ held)
    (hkept : exchange.released? = none) (hnone : exchange.acquired? = none)
    (htrace : Balanced held trace) : Balanced held (exchange :: trace) := by
  intro rest hrest
  refine .use hsubject hkept ?_
  rw [hnone]
  exact htrace rest hrest

namespace Bracket

variable {call : Call ρ} {within : ρ → List (Exchange ρ) → Prop} {trace : List (Exchange ρ)}

/-- A bracket around balanced traces is balanced. -/
theorem balanced {held : List ρ} (h : Bracket call within trace)
    (hkept : ∀ reference, call ≠ .release reference)
    (hsubject : ∀ reference ∈ call.subject?, reference ∈ held)
    (hwithin : ∀ reference inner, within reference inner → Balanced (reference :: held) inner) :
    Balanced held trace := by
  cases h with
  | @unowned exchange hcall hnone =>
    have hkeeps : exchange.released? = none :=
      released?_eq_none_of_call_ne fun reference => hcall ▸ hkept reference
    exact balanced_cons (by rwa [hcall]) hkeeps hnone fun rest hrest => hrest
  | @owned exchange reference inner answer hcall hsome hinner =>
    intro rest hrest
    refine .use (by rwa [hcall]) (released?_eq_none_of_acquired? hsome) ?_
    rw [hsome, List.append_eq, List.append_assoc]
    exact hwithin reference inner hinner _ (.release hrest)

/-- A bracket gives back what it was handed, if the calls within do. -/
theorem releasesAcquired (h : Bracket call within trace)
    (hkept : ∀ reference, call ≠ .release reference)
    (hwithin : ∀ reference inner, within reference inner → ReleasesAcquired inner) :
    ReleasesAcquired trace := by
  cases h with
  | @unowned exchange hcall hnone =>
    have hkeeps : exchange.released? = none :=
      released?_eq_none_of_call_ne fun reference => hcall ▸ hkept reference
    simp [ReleasesAcquired, hnone, hkeeps]
  | @owned exchange reference inner answer hcall hsome hinner =>
    have hinner' := hwithin reference inner hinner
    rw [ReleasesAcquired] at hinner' ⊢
    rw [List.filterMap_cons_none (released?_eq_none_of_acquired? hsome),
      List.filterMap_cons_some hsome, List.filterMap_append, List.filterMap_append, hinner']
    simp [Exchange.released?, Exchange.acquired?]

/-- In a bracket releases come last, if they do within. -/
theorem releasesLast (h : Bracket call within trace)
    (hwithin : ∀ reference inner, within reference inner → ReleasesLast inner) :
    ReleasesLast trace := by
  cases h with
  | unowned hcall hnone => exact List.pairwise_singleton _ _
  | @owned exchange reference inner answer hcall hsome hinner =>
    rw [ReleasesLast, List.pairwise_cons]
    refine ⟨?_, ?_⟩
    · rintro later _ (hbroke | hreleased)
      · exact absurd hbroke (not_brokeOff_of_acquired? hsome)
      · rw [released?_eq_none_of_acquired? hsome] at hreleased
        simp at hreleased
    · rw [List.pairwise_append]
      refine ⟨hwithin reference inner hinner, List.pairwise_singleton _ _, ?_⟩
      intro earlier _ later hlater _
      rw [List.mem_singleton] at hlater
      subst hlater
      rfl

end Bracket

/-! ## Reads -/

/-- A read hands nothing out and gives nothing back, and the only counted
reference that it works on is the dictionary. -/
structure IsRead (dictionary : ρ) (exchange : Exchange ρ) : Prop where
  acquires_none : exchange.acquired? = none
  releases_none : exchange.released? = none
  subject : ∀ reference ∈ exchange.call.subject?, reference = dictionary

theorem isRead_of_onValue {dictionary value : ρ} {exchange : Exchange ρ}
    (h : OnValue value exchange.call) : IsRead dictionary exchange := by
  obtain ⟨call, answer⟩ := exchange
  cases call <;> first | exact absurd h id | exact ⟨rfl, rfl, fun _ h => by cases h⟩

theorem isRead_value (dictionary : ρ) (key : Key) (answer : Except Fault (Option ρ)) :
    IsRead dictionary ⟨.value dictionary key, answer⟩ := by
  refine ⟨rfl, rfl, fun reference h => ?_⟩
  exact (Option.mem_some_iff.1 h).symm

theorem KeyReads.isRead {dictionary : ρ} {key : Key} {trace : List (Exchange ρ)}
    (h : KeyReads dictionary key trace) : ∀ exchange ∈ trace, IsRead dictionary exchange := by
  cases h with
  | absent hnone =>
    intro exchange hmem
    rw [List.mem_singleton] at hmem
    rw [hmem]
    exact isRead_value dictionary key _
  | found hreads =>
    intro exchange hmem
    rcases List.mem_cons.1 hmem with rfl | hmem
    · exact isRead_value dictionary key _
    · exact isRead_of_onValue (hreads exchange hmem)

theorem Reads.isRead {dictionary : ρ} {keys : List Key} {trace : List (Exchange ρ)}
    (h : Reads dictionary keys trace) : ∀ exchange ∈ trace, IsRead dictionary exchange := by
  induction h with
  | stop =>
    intro exchange hmem
    cases hmem
  | next hfirst _ ih =>
    intro exchange hmem
    rcases List.mem_append.1 hmem with hmem | hmem
    · exact hfirst.isRead exchange hmem
    · exact ih exchange hmem

theorem balanced_of_isRead {dictionary : ρ} {held : List ρ} {trace : List (Exchange ρ)}
    (h : ∀ exchange ∈ trace, IsRead dictionary exchange) :
    Balanced (dictionary :: held) trace := by
  induction trace with
  | nil => exact fun rest hrest => hrest
  | cons exchange trace ih =>
    have hread := h exchange List.mem_cons_self
    refine balanced_cons ?_ hread.releases_none hread.acquires_none ?_
    · intro reference hreference
      rw [hread.subject reference hreference]
      exact List.mem_cons_self
    · exact ih fun exchange hmem => h exchange (List.mem_cons_of_mem _ hmem)

theorem releasesAcquired_of_isRead {dictionary : ρ} {trace : List (Exchange ρ)}
    (h : ∀ exchange ∈ trace, IsRead dictionary exchange) : ReleasesAcquired trace := by
  have hreleased : trace.filterMap Exchange.released? = [] :=
    List.filterMap_eq_nil_iff.2 fun exchange hmem => (h exchange hmem).releases_none
  have hacquired : trace.filterMap Exchange.acquired? = [] :=
    List.filterMap_eq_nil_iff.2 fun exchange hmem => (h exchange hmem).acquires_none
  rw [ReleasesAcquired, hreleased, hacquired]
  rfl

theorem releasesLast_of_isRead {dictionary : ρ} {trace : List (Exchange ρ)}
    (h : ∀ exchange ∈ trace, IsRead dictionary exchange)
    (hbroke : trace.Pairwise fun exchange _ => ¬exchange.BrokeOff) : ReleasesLast trace := by
  refine hbroke.imp_of_mem ?_
  rintro exchange later hmem _ hbroke (hfault | hreleased)
  · exact absurd hfault hbroke
  · rw [(h exchange hmem).releases_none] at hreleased
    simp at hreleased

/-! ## Brackets of clients -/

/-- Owning a reference is a bracket around the body. -/
theorem bracket_owning {call : Call ρ} {owner : γ → Guard ρ} {create : Client ρ (Option γ)}
    {absent : Client ρ α} {body : γ → Client ρ α} {within : ρ → List (Exchange ρ) → Prop}
    (hcreate : Acquires call owner create)
    (habsent : ∀ (service : Service ρ σ) (state : σ), (absent.run service state).exchanges = [])
    (hbody : ∀ held (service : Service ρ σ) (state : σ),
      within (owner held).reference ((body held).run service state).exchanges)
    (service : Service ρ σ) (state : σ) :
    Bracket call within ((Guard.owning create owner absent body).run service state).exchanges := by
  obtain ⟨hexchanges, _, hacquired, _⟩ := hcreate service state
  rw [Guard.owning]
  cases houtcome : (create.run service state).outcome with
  | error fault =>
    rw [exchanges_bind_of_error _ houtcome, hexchanges]
    rw [houtcome] at hacquired
    exact .unowned rfl hacquired
  | ok created =>
    rw [exchanges_bind_of_ok _ houtcome, hexchanges]
    rw [houtcome] at hacquired
    cases created with
    | none =>
      rw [habsent]
      exact .unowned rfl hacquired
    | some held =>
      rw [exchanges_holding]
      exact .owned rfl hacquired (hbody held service _)

/-! ## The reading of a description -/

/-- A look-up reads a key, if the client goes on to read the value that it
found, and makes no call if it found none. -/
theorem keyReads_lookup {dictionary : ρ} {key : Key} {next : Option ρ → Client ρ α}
    (hnone : (next none).Asks fun _ => False)
    (hsome : ∀ value, (next (some value)).Asks (OnValue value))
    (service : Service ρ σ) (state : σ) :
    KeyReads dictionary key
      ((perform (.value dictionary key) >>= next).run service state).exchanges := by
  rw [perform_bind, exchanges_ask]
  rcases service.answer (.value dictionary key) state with ⟨fault | _ | value, last⟩
  · exact .absent fun value h => by cases h
  · have hnil : ((next none).run service last).exchanges = [] :=
      List.eq_nil_iff_forall_not_mem.2 (hnone.of_mem_exchanges service last)
    change KeyReads dictionary key (_ :: ((next none).run service last).exchanges)
    rw [hnil]
    exact .absent fun value h => by cases h
  · exact .found ((hsome value).of_mem_exchanges service last)

theorem keyReads_boolean (description : Description ρ) (key : Key) (service : Service ρ σ)
    (state : σ) :
    KeyReads description.guard.reference key
      ((description.boolean key).run service state).exchanges := by
  refine keyReads_lookup ?_ (fun value => ?_) service state
  · trivial
  have hboolean : OnValue value (.boolean value) := rfl
  refine (asks_perform hboolean).bind fun truth => ?_
  cases truth <;> trivial

theorem keyReads_text (description : Description ρ) (key : Key) (service : Service ρ σ)
    (state : σ) :
    KeyReads description.guard.reference key
      ((description.text key).run service state).exchanges := by
  refine keyReads_lookup ?_ (fun value => ?_) service state
  · trivial
  have htextLength : OnValue value (.textLength value) := rfl
  refine (asks_perform htextLength).bind fun length => ?_
  rcases length with _ | length
  · trivial
  have hmaxSize : OnValue value (.maxSize length) := trivial
  refine (asks_perform hmaxSize).bind fun maxSize => ?_
  rcases bufferSize? maxSize with _ | size
  · trivial
  have hcopyText : OnValue value (.copyText value (List.replicate size 0)) := rfl
  refine (asks_perform hcopyText).bind fun copied => ?_
  rcases copied with ⟨_ | _, buffer⟩ <;> trivial

/-- Reading one key and then others is a list of reads. -/
theorem reads_andThen {ε : Type} {dictionary : ρ} {key : Key} {keys : List Key}
    {client : Client ρ (Except ε α)} {next : α → Client ρ (Except ε β)}
    (hclient : ∀ (service : Service ρ σ) (state : σ),
      KeyReads dictionary key (client.run service state).exchanges)
    (hnext : ∀ a (service : Service ρ σ) (state : σ),
      Reads dictionary keys ((next a).run service state).exchanges)
    (service : Service ρ σ) (state : σ) :
    Reads dictionary (key :: keys) ((client.andThen next).run service state).exchanges := by
  have hstop : Reads dictionary (key :: keys) ((client.run service state).exchanges ++ []) :=
    .next (hclient service state) .stop
  rw [List.append_nil] at hstop
  rw [andThen]
  cases houtcome : (client.run service state).outcome with
  | error fault =>
    rw [exchanges_bind_of_error _ houtcome]
    exact hstop
  | ok result =>
    rw [exchanges_bind_of_ok _ houtcome]
    cases result with
    | error error =>
      exact .next (hclient service state) .stop
    | ok a => exact .next (hclient service state) (hnext a service _)

theorem Client.Straight.andThen {ε : Type} {client : Client ρ (Except ε α)}
    {next : α → Client ρ (Except ε β)} (hclient : client.Straight)
    (hnext : ∀ a, (next a).Straight) : (client.andThen next).Straight := by
  refine hclient.bind fun result => ?_
  cases result with
  | ok a => exact hnext a
  | error error => trivial

theorem straight_boolean (description : Description ρ) (key : Key) :
    (description.boolean key).Straight := by
  refine (straight_perform _).bind fun value => ?_
  rcases value with _ | value
  · trivial
  refine (straight_perform _).bind fun truth => ?_
  cases truth <;> trivial

theorem straight_text (description : Description ρ) (key : Key) :
    (description.text key).Straight := by
  refine (straight_perform _).bind fun value => ?_
  rcases value with _ | value
  · trivial
  refine (straight_perform _).bind fun length => ?_
  rcases length with _ | length
  · trivial
  refine (straight_perform _).bind fun maxSize => ?_
  rcases bufferSize? maxSize with _ | size
  · trivial
  refine (straight_perform _).bind fun copied => ?_
  rcases copied with ⟨_ | _, buffer⟩ <;> trivial

theorem straight_attributes (description : Description ρ) : description.attributes.Straight := by
  rw [attributes_eq]
  refine (straight_boolean description _).andThen fun removable => ?_
  refine (straight_text description _).andThen fun vendor => ?_
  refine (straight_text description _).andThen fun model => ?_
  trivial

theorem straight_lookup (name : DeviceName) (description : Description ρ) :
    (description.lookup name).Straight :=
  (straight_attributes description).andThen fun _ => trivial

/-- A query reads the description that it reached. -/
theorem readsDescription_lookup (name : DeviceName) (description : Description ρ)
    (service : Service ρ σ) (state : σ) :
    ReadsDescription description.guard.reference
      ((description.lookup name).run service state).exchanges := by
  have hreport : ((description.lookup name).run service state).exchanges =
      (description.attributes.run service state).exchanges :=
    exchanges_andThen_of_silent (fun _ _ => rfl) description.attributes state
  rw [hreport]
  refine ⟨?_, ?_⟩
  · rw [attributes_eq]
    refine reads_andThen (keyReads_boolean description _) (fun removable service state => ?_)
      service state
    refine reads_andThen (keyReads_text description _) (fun vendor service state => ?_)
      service state
    refine reads_andThen (keyReads_text description _) (fun model service state => ?_)
      service state
    exact .stop
  · exact (straight_attributes description).pairwise_exchanges service state

/-! ## The assembly -/

/-- The calls of a query of `name`, as they have to be. -/
structure WellBracketed (name : DeviceName) (trace : List (Exchange ρ)) : Prop where
  /-- The calls are those of a query, in their order. -/
  shape : QueryTrace name trace
  /-- Each reference is given back once, the last one acquired first, and no
  other reference is. -/
  released : ReleasesAcquired trace
  /-- No reference is used before it is owned or after it was given back. -/
  disciplined : Disciplined [] trace
  /-- Nothing but releases comes after a call that broke off. -/
  releasesLast : ReleasesLast trace

/-- A trace of the right shape is well bracketed. -/
theorem wellBracketed_of_queryTrace {name : DeviceName} {trace : List (Exchange ρ)}
    (h : QueryTrace name trace) : WellBracketed name trace where
  shape := h
  released := by
    refine h.releasesAcquired (fun _ => by simp) fun session inner hdisk => ?_
    refine hdisk.releasesAcquired (fun _ => by simp) fun disk inner hdescription => ?_
    refine hdescription.releasesAcquired (fun _ => by simp) fun dictionary inner hreads => ?_
    exact releasesAcquired_of_isRead hreads.1.isRead
  disciplined := by
    have hbalanced : Balanced [] trace := by
      refine h.balanced (fun _ => by simp) (fun _ h => by cases h) fun session inner hdisk => ?_
      refine hdisk.balanced (fun _ => by simp) (fun _ h => ?_) fun disk inner hdescription => ?_
      · cases h
        exact List.mem_cons_self
      refine hdescription.balanced (fun _ => by simp) (fun _ h => ?_)
        fun dictionary inner hreads => ?_
      · cases h
        exact List.mem_cons_self
      · exact balanced_of_isRead hreads.1.isRead
    simpa using hbalanced [] .done
  releasesLast := by
    refine h.releasesLast fun session inner hdisk => ?_
    refine hdisk.releasesLast fun disk inner hdescription => ?_
    refine hdescription.releasesLast fun dictionary inner hreads => ?_
    exact releasesLast_of_isRead hreads.1.isRead hreads.2

/-- The calls of a query have the shape of a query, over every service. -/
theorem queryTrace_query (name : DeviceName) (service : Service ρ σ) (state : σ) :
    QueryTrace name ((query name).run service state).exchanges := by
  rw [query_eq]
  refine bracket_owning acquires_connect (fun _ _ => rfl)
    (fun session service state => ?_) service state
  refine bracket_owning (acquires_resolve session name) (fun _ _ => rfl)
    (fun disk service state => ?_) service state
  refine bracket_owning (acquires_describe disk) (fun _ _ => rfl)
    (fun description service state => ?_) service state
  exact readsDescription_lookup name description service state

theorem wellBracketed_query (name : DeviceName) (service : Service ρ σ) (state : σ) :
    WellBracketed name ((query name).run service state).exchanges :=
  wellBracketed_of_queryTrace (queryTrace_query name service state)

end DiskQuery
