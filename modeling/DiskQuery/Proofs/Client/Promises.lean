import DiskQuery.Proofs.Client.Errors
import DiskQuery.Proofs.Client.Reading
import DiskQuery.Proofs.Text.Utf8
import Mathlib.Data.List.TakeWhile

/-!
# Broken promises

A query ends with an error if and only if it reached a description and an entry
of it breaks the promise of its key.  Nothing is assumed about the service but
that every call has an answer: lengths, sizes and buffers may be anything.

There are four groups.

* Entries.  `Fulfils` and `Breaks` are the calls that read an entry which
  fulfils or breaks the promise of its key, and `FirstBreach` is a reading up to
  the first broken one.
* Texts.  `CleanText` is what every text of an answer is.
* Queries.  `Told` lists the calls of a query with its result, and `tells_query`
  says that there are no others.
* The assembly.  `justified_query` reads the result off the calls.
-/

namespace DiskQuery

open Client

variable {ρ σ α β : Type}

/-! ## Entries -/

/-- The keys that a query reads, in order. -/
def Key.inOrder : List Key :=
  [.mediaRemovable, .deviceVendor, .deviceModel]

/-- The calls that read an entry which is not there, or is what its key
promises. -/
def Fulfils (dictionary : ρ) (key : Key) (trace : List (Exchange ρ)) : Prop :=
  match key with
  | .mediaRemovable => ∃ truth, ReadsBoolean dictionary key trace (.ok truth)
  | .deviceVendor | .deviceModel => ∃ text, ReadsText dictionary key trace (.ok text)

/-- The calls that read an entry which is there, but not what its key
promises. -/
def Breaks (dictionary : ρ) (key : Key) (breach : Breach) (trace : List (Exchange ρ)) : Prop :=
  match key with
  | .mediaRemovable => ReadsBoolean dictionary key trace (.error breach)
  | .deviceVendor | .deviceModel => ReadsText dictionary key trace (.error breach)

/-- The calls that read keys one after another, up to the first entry that
breaks the promise of its key. -/
inductive FirstBreach (dictionary : ρ) :
    List Key → List (Exchange ρ) → Key → Breach → Prop where
  | here {key : Key} {keys : List Key} {breach : Breach} {trace : List (Exchange ρ)}
      (hbreaks : Breaks dictionary key breach trace) :
      FirstBreach dictionary (key :: keys) trace key breach
  | later {earlier key : Key} {keys : List Key} {breach : Breach}
      {first rest : List (Exchange ρ)} (hfulfils : Fulfils dictionary earlier first)
      (hrest : FirstBreach dictionary keys rest key breach) :
      FirstBreach dictionary (earlier :: keys) (first ++ rest) key breach

/-- The call looks a key up. -/
def Call.LooksUp (key : Key) : Call ρ → Prop
  | .value _ other => other = key
  | _ => False

section Entries

variable {dictionary : ρ} {key other : Key} {keys : List Key} {breach : Breach}
  {first segment rest trace : List (Exchange ρ)}

/-- An entry is looked up first and only once. -/
theorem Fulfils.eq_cons (h : Fulfils dictionary key first) :
    ∃ answer reads, first = ⟨.value dictionary key, answer⟩ :: reads ∧
      ∀ exchange ∈ reads, ∀ other, ¬exchange.call.LooksUp other := by
  cases key <;> obtain ⟨read, hread⟩ := h <;> cases hread <;>
    exact ⟨_, _, rfl, by simp [Call.LooksUp]⟩

theorem Breaks.eq_cons (h : Breaks dictionary key breach segment) :
    ∃ answer reads, segment = ⟨.value dictionary key, answer⟩ :: reads ∧
      ∀ exchange ∈ reads, ∀ other, ¬exchange.call.LooksUp other := by
  cases key <;> cases h <;> exact ⟨_, _, rfl, by simp [Call.LooksUp]⟩

/-- Two readings of one boolean part ways at the call whose answer is no
boolean. -/
theorem ReadsBoolean.not_isPrefix {truth : Option Bool}
    (hread : ReadsBoolean dictionary key first (.ok truth))
    (hbreach : ReadsBoolean dictionary key segment (.error breach)) :
    ¬segment <+: first ++ rest := by
  cases hbreach with
  | notBoolean => cases hread <;> simp [List.cons_prefix_cons]

theorem eq_of_copying_isPrefix {value value' : ρ} {length length' size size' : Int}
    {copied copied' : Bool × List UInt8}
    (h : copying dictionary key value length size copied <+:
      copying dictionary key value' length' size' copied' ++ rest) : copied = copied' := by
  simp only [copying, List.cons_append, List.cons_prefix_cons] at h
  obtain ⟨_, _, hmaxSize, hcopy, _⟩ := h
  cases hmaxSize
  cases hcopy
  rfl

/-- Two readings of one text part ways at the call whose answer is the breach. -/
theorem ReadsText.not_isPrefix {text : Option String}
    (hread : ReadsText dictionary key first (.ok text))
    (hbreach : ReadsText dictionary key segment (.error breach)) :
    ¬segment <+: first ++ rest := by
  intro hwithin
  cases hread with
  | absent => cases hbreach <;> simp [copying, List.cons_prefix_cons] at hwithin
  | text hsize hzero hbytes =>
    cases hbreach with
    | notText => simp [copying, List.cons_prefix_cons] at hwithin
    | negativeSize hnegative =>
      simp only [copying, List.cons_append, List.cons_prefix_cons] at hwithin
      obtain ⟨_, _, hmaxSize, _⟩ := hwithin
      cases hmaxSize
      exact Int.not_lt.2 hsize hnegative
    | copyFailed => cases eq_of_copying_isPrefix hwithin
    | unended _ hnone =>
      cases eq_of_copying_isPrefix hwithin
      exact hnone hzero
    | illFormed _ _ hdefect =>
      cases eq_of_copying_isPrefix hwithin
      rw [hbytes] at hdefect
      cases hdefect

/-- The calls that read an entry without a breach do not begin like those that
read one with a breach. -/
theorem Fulfils.not_isPrefix (hfulfils : Fulfils dictionary other first)
    (hbreaks : Breaks dictionary key breach segment) : ¬segment <+: first ++ rest := by
  intro hwithin
  have hsame : key = other := by
    obtain ⟨_, _, rfl, _⟩ := hfulfils.eq_cons
    obtain ⟨_, _, rfl, _⟩ := hbreaks.eq_cons
    cases (List.cons_prefix_cons.1 hwithin).1
    rfl
  subst hsame
  cases key <;> obtain ⟨read, hread⟩ := hfulfils <;> exact hread.not_isPrefix hbreaks hwithin

/-- Calls that look nothing up are no part of a breach's beginning. -/
theorem Breaks.infix_of_append (hbreaks : Breaks dictionary key breach segment)
    (hreads : ∀ exchange ∈ first, ∀ other, ¬exchange.call.LooksUp other)
    (h : segment <:+: first ++ rest) : segment <:+: rest := by
  obtain ⟨answer, tail, rfl, _⟩ := hbreaks.eq_cons
  induction first with
  | nil => exact h
  | cons exchange first ih =>
    obtain ⟨hexchange, hfirst⟩ := List.forall_mem_cons.1 hreads
    rw [List.cons_append, List.infix_cons_iff, List.cons_prefix_cons] at h
    rcases h with ⟨rfl, _⟩ | h
    · exact absurd rfl (hexchange key)
    · exact ih hfirst h

/-- A breach is not in the calls that read an entry without one. -/
theorem Fulfils.infix_of_append (hfulfils : Fulfils dictionary other first)
    (hbreaks : Breaks dictionary key breach segment) (h : segment <:+: first ++ rest) :
    segment <:+: rest := by
  have hnot : ¬segment <+: first ++ rest := hfulfils.not_isPrefix hbreaks
  obtain ⟨answer, reads, rfl, hreads⟩ := hfulfils.eq_cons
  rw [List.cons_append, List.infix_cons_iff] at h
  exact hbreaks.infix_of_append hreads (h.resolve_left hnot)

/-- The calls up to the first breach end with it. -/
theorem FirstBreach.exists_suffix (h : FirstBreach dictionary keys trace key breach) :
    ∃ segment, Breaks dictionary key breach segment ∧ segment <:+ trace := by
  induction h with
  | here hbreaks => exact ⟨_, hbreaks, List.suffix_refl _⟩
  | @later earlier key keys breach first rest hfulfils hrest ih =>
    obtain ⟨segment, hbreaks, hsuffix⟩ := ih
    exact ⟨segment, hbreaks, hsuffix.trans (List.suffix_append first rest)⟩

/-- The keys after that of the first breach are not looked up. -/
theorem FirstBreach.exists_split (h : FirstBreach dictionary keys trace key breach)
    (hkeys : keys.Nodup) :
    ∃ earlier later, keys = earlier ++ key :: later ∧
      ∀ exchange ∈ trace, ∀ unread ∈ later, ¬exchange.call.LooksUp unread := by
  induction h with
  | @here key keys breach trace hbreaks =>
    refine ⟨[], keys, rfl, ?_⟩
    obtain ⟨answer, reads, rfl, hreads⟩ := hbreaks.eq_cons
    rw [List.forall_mem_cons]
    refine ⟨?_, fun exchange hmem unread _ => hreads exchange hmem unread⟩
    rintro unread hunread rfl
    exact (List.nodup_cons.1 hkeys).1 hunread
  | @later first key keys breach trace rest hfulfils hrest ih =>
    obtain ⟨hfirst, hkeys⟩ := List.nodup_cons.1 hkeys
    obtain ⟨earlier, later, rfl, hunread⟩ := ih hkeys
    refine ⟨first :: earlier, later, rfl, ?_⟩
    obtain ⟨answer, reads, rfl, hreads⟩ := hfulfils.eq_cons
    rw [List.forall_mem_append, List.forall_mem_cons]
    refine ⟨⟨?_, fun exchange hmem unread _ => hreads exchange hmem unread⟩, hunread⟩
    rintro unread hmem rfl
    exact hfirst (List.mem_append_right _ (List.mem_cons_of_mem _ hmem))

end Entries

/-! ## Texts -/

/-- A text of an answer: it holds no zero, nothing blank is at its end, and its
bytes are the first of those that a copy left before a zero byte. -/
structure CleanText (trace : List (Exchange ρ)) (text : String) : Prop where
  noZero : '\x00' ∉ text.toList
  noBlank : ∀ c, text.toList.getLast? = some c → Text.isBlank c = false
  copied : ∃ dictionary key value length size buffer,
    copying dictionary key value length size (true, buffer) <:+: trace ∧
      Text.Utf8.encode text.toList <+: buffer.takeWhile (· ≠ 0)

theorem trimEnd_isPrefix (text : List Char) : Text.trimEnd text <+: text := by
  have hsuffix := List.dropWhile_suffix Text.isBlank (l := text.reverse)
  rw [← List.reverse_prefix, List.reverse_reverse] at hsuffix
  exact hsuffix

theorem encode_isPrefix {first second : List Char} (h : first <+: second) :
    Text.Utf8.encode first <+: Text.Utf8.encode second := by
  obtain ⟨rest, rfl⟩ := h
  rw [Text.Utf8.encode, Text.Utf8.encode, List.flatMap_append]
  exact List.prefix_append _ _

/-- A text that was read is clean once it is trimmed. -/
theorem ReadsText.cleanText {dictionary : ρ} {key : Key} {segment trace : List (Exchange ρ)}
    {text : String} (h : ReadsText dictionary key segment (.ok (some text)))
    (hwithin : segment <:+: trace) : CleanText trace (trimmed text) := by
  cases h with
  | @text value length size buffer text hsize hzero hbytes =>
    have hencode := Text.Utf8.decode_eq_ok_iff.1 hbytes
    have hstart := encode_isPrefix (trimEnd_isPrefix text)
    rw [hencode] at hstart
    have hlist : (trimmed (String.ofList text)).toList = Text.trimEnd text := by
      rw [trimmed, String.toList_ofList, String.toList_ofList]
    refine ⟨?_, ?_, ?_⟩
    · rw [hlist, ← Text.Utf8.zero_mem_encode]
      intro hmem
      simpa using List.mem_takeWhile_imp (hstart.subset hmem)
    · rw [hlist]
      exact fun c => Text.isBlank_of_getLast?_trimEnd
    · rw [hlist]
      exact ⟨dictionary, key, value, length, size, buffer, hwithin, hstart⟩

/-! ## Queries -/

/-- The calls of a reading of the attributes, with its result. -/
inductive AttributesTold (dictionary : ρ) :
    List (Exchange ρ) → Except QueryError Attributes → Prop where
  | kept {first second third : List (Exchange ρ)} {removable : Option Bool}
      {vendor model : Option String}
      (hremovable : ReadsBoolean dictionary .mediaRemovable first (.ok removable))
      (hvendor : ReadsText dictionary .deviceVendor second (.ok vendor))
      (hmodel : ReadsText dictionary .deviceModel third (.ok model)) :
      AttributesTold dictionary (first ++ (second ++ third))
        (.ok ⟨removable, vendor.map trimmed, model.map trimmed⟩)
  | broken {trace : List (Exchange ρ)} {key : Key} {breach : Breach}
      (hfirst : FirstBreach dictionary Key.inOrder trace key breach) :
      AttributesTold dictionary trace (.error (breach.error key))

/-- The calls that lead to a description. -/
def reaching (name : DeviceName) (session disk dictionary : ρ) : List (Exchange ρ) :=
  [⟨.createSession, .ok (some session)⟩, ⟨.createDisk session name, .ok (some disk)⟩,
    ⟨.copyDescription disk, .ok (some dictionary)⟩]

/-- The calls that give everything back. -/
def leaving (session disk dictionary : ρ) : List (Exchange ρ) :=
  [⟨.release dictionary, .ok ()⟩, ⟨.release disk, .ok ()⟩, ⟨.release session, .ok ()⟩]

/-- The calls of a query of `name`, with its result. -/
inductive Told (name : DeviceName) : List (Exchange ρ) → Except QueryError Lookup → Prop where
  | unavailable : Told name [⟨.createSession, .ok none⟩] (.ok .unavailable)
  | notFound {session : ρ} : Told name
      [⟨.createSession, .ok (some session)⟩, ⟨.createDisk session name, .ok none⟩,
        ⟨.release session, .ok ()⟩]
      (.ok .notFound)
  | undescribed {session disk : ρ} : Told name
      [⟨.createSession, .ok (some session)⟩, ⟨.createDisk session name, .ok (some disk)⟩,
        ⟨.copyDescription disk, .ok none⟩, ⟨.release disk, .ok ()⟩, ⟨.release session, .ok ()⟩]
      (.ok (.described {}))
  | read {session disk dictionary : ρ} {reads : List (Exchange ρ)}
      {result : Except QueryError Attributes} (hreads : AttributesTold dictionary reads result) :
      Told name
        (reaching name session disk dictionary ++ (reads ++ leaving session disk dictionary))
        (result.map .described)

theorem not_looksUp_reaching {name : DeviceName} {session disk dictionary : ρ} :
    ∀ exchange ∈ reaching name session disk dictionary, ∀ key, ¬exchange.call.LooksUp key := by
  simp [reaching, Call.LooksUp]

theorem not_looksUp_leaving {session disk dictionary : ρ} :
    ∀ exchange ∈ leaving session disk dictionary, ∀ key, ¬exchange.call.LooksUp key := by
  simp [leaving, Call.LooksUp]

theorem reaching_append_inj {name : DeviceName} {session session' disk disk' dictionary
    dictionary' : ρ} {rest rest' : List (Exchange ρ)}
    (h : reaching name session disk dictionary ++ rest =
      reaching name session' disk' dictionary' ++ rest') :
    dictionary = dictionary' ∧ rest = rest' := by
  obtain ⟨hreaching, hrest⟩ := List.append_inj h rfl
  have hlast : disk = disk' ∧ dictionary = dictionary' := by
    simpa [reaching] using congrArg List.getLast? hreaching
  exact ⟨hlast.2, hrest⟩

/-- A reading comes before what goes on with its value, and its breach is the
last word. -/
theorem Client.Tells.andThen_of_reads {key : Key}
    {reads : List (Exchange ρ) → Except Breach α → Prop}
    {spec : List (Exchange ρ) → Except QueryError β → Prop}
    {client : Client ρ (Except QueryError α)} {next : α → Client ρ (Except QueryError β)}
    (hclient : Tells (fun trace result => ∃ read, reads trace read ∧
      result = read.mapError (Breach.error key)) client)
    (hbroken : ∀ trace breach, reads trace (.error breach) →
      spec trace (.error (breach.error key)))
    (hkept : ∀ trace a, reads trace (.ok a) → Tells (fun rest => spec (trace ++ rest)) (next a)) :
    Tells spec (client.andThen next) := by
  refine hclient.andThen (fun trace error => ?_) fun trace a => ?_
  · rintro ⟨read, hread, herror⟩
    cases read with
    | ok a => cases herror
    | error breach =>
      cases herror
      exact hbroken trace breach hread
  · rintro ⟨read, hread, hok⟩
    cases read with
    | ok value =>
      cases hok
      exact hkept trace _ hread
    | error breach => cases hok

theorem tells_attributes (description : Description ρ) :
    Tells (AttributesTold description.guard.reference) description.attributes := by
  rw [attributes_eq]
  refine (tells_boolean description _).andThen_of_reads
    (fun first breach hfirst => .broken (.here hfirst)) fun first removable hremovable => ?_
  refine (tells_text description _).andThen_of_reads
    (fun second breach hsecond => .broken (.later ⟨_, hremovable⟩ (.here hsecond)))
    fun second vendor hvendor => ?_
  refine (tells_text description _).andThen_of_reads (fun third breach hthird =>
      .broken (.later ⟨_, hremovable⟩ (.later ⟨_, hvendor⟩ (.here hthird))))
    fun third model hmodel => ?_
  apply tells_pure
  rw [List.append_nil]
  exact .kept hremovable hvendor hmodel

theorem tells_lookup (name : DeviceName) (description : Description ρ) :
    Tells (fun trace result => ∃ read, AttributesTold description.guard.reference trace read ∧
      result = read.map .described) (description.lookup name) := by
  refine (tells_attributes description).andThen (fun trace error herror => ⟨_, herror, rfl⟩)
    fun trace attributes hread => ?_
  refine Tells.report ?_ _
  apply tells_pure
  rw [List.append_nil]
  exact ⟨_, hread, rfl⟩

/-- The calls of a query tell its result. -/
theorem tells_query (name : DeviceName) : Tells (Told (ρ := ρ) name) (query name) := by
  rw [query_eq]
  refine Tells.owning acquires_connect (fun a hnone => ?_) fun a session hsession => ?_
  · cases hnone
    exact tells_pure .unavailable
  cases hsession
  refine Tells.owning (acquires_resolve session name) (fun a hnone => ?_) fun a disk hdisk => ?_
  · cases hnone
    exact tells_pure .notFound
  cases hdisk
  refine Tells.owning (acquires_describe disk) (fun a hnone => ?_)
    fun a description hdescription => ?_
  · cases hnone
    exact tells_pure .undescribed
  cases hdescription
  refine (tells_lookup name description).imp fun reads result => ?_
  rintro ⟨read, hread, rfl⟩
  have htold : Told name (reaching name session.guard.reference disk.guard.reference _ ++ _) _ :=
    .read hread
  simpa [reaching, leaving] using htold

/-! ## The assembly -/

/-- What the result of a query of `name` has to do with its calls. -/
structure Justified (name : DeviceName) (trace : List (Exchange ρ))
    (result : Except QueryError Lookup) : Prop where
  /-- The calls are those of a query with that result. -/
  told : Told name trace result
  /-- The result is an error if and only if a description was reached and an
  entry of it breaks the promise of its key. -/
  isError_iff : (∃ error, result = .error error) ↔
    ∃ session disk dictionary rest, trace = reaching name session disk dictionary ++ rest ∧
      ∃ key breach segment, Breaks dictionary key breach segment ∧ segment <:+: rest
  /-- The error is that of the first such entry, and everything is given back
  right after it. -/
  first : ∀ error, result = .error error → ∃ session disk dictionary reads key breach,
    trace = reaching name session disk dictionary ++ (reads ++ leaving session disk dictionary) ∧
      FirstBreach dictionary Key.inOrder reads key breach ∧ error = breach.error key
  /-- The error names the key of that entry, and no later key is looked up. -/
  unread : ∀ error, result = .error error → ∃ earlier key later,
    Key.inOrder = earlier ++ key :: later ∧ error.key? = some key ∧
      ∀ exchange ∈ trace, ∀ other ∈ later, ¬exchange.call.LooksUp other
  /-- The error is none of a worker. -/
  notOfWorker : ∀ error, result = .error error →
    (∀ asked limit, error ≠ .timeout asked limit) ∧ error ≠ .workerLost ∧
      ∀ reason, error ≠ .spawn reason
  /-- The texts of an answer are clean. -/
  texts : ∀ attributes text, result = .ok (.described attributes) →
    attributes.vendor = some text ∨ attributes.model = some text → CleanText trace text

theorem Breach.key?_error (breach : Breach) (key : Key) : (breach.error key).key? = some key := by
  cases breach <;> rfl

namespace Told

variable {name : DeviceName} {trace : List (Exchange ρ)} {result : Except QueryError Lookup}

theorem first (h : Told name trace result) {error : QueryError} (herror : result = .error error) :
    ∃ session disk dictionary reads key breach,
      trace = reaching name session disk dictionary ++ (reads ++ leaving session disk dictionary) ∧
        FirstBreach dictionary Key.inOrder reads key breach ∧ error = breach.error key := by
  cases h with
  | unavailable | notFound | undescribed => cases herror
  | read hreads =>
    cases hreads with
    | kept => cases herror
    | broken hfirst =>
      cases herror
      exact ⟨_, _, _, _, _, _, rfl, hfirst, rfl⟩

theorem notOfWorker (h : Told name trace result) {error : QueryError}
    (herror : result = .error error) :
    (∀ asked limit, error ≠ .timeout asked limit) ∧ error ≠ .workerLost ∧
      ∀ reason, error ≠ .spawn reason := by
  obtain ⟨_, _, _, _, key, breach, _, _, rfl⟩ := h.first herror
  cases breach <;> simp [Breach.error]

/-- An answer from a description is one without a breach. -/
theorem not_isInfix (h : Told name trace result) {lookup : Lookup} (hresult : result = .ok lookup)
    {session disk dictionary : ρ} {rest : List (Exchange ρ)}
    (htrace : trace = reaching name session disk dictionary ++ rest) {key : Key} {breach : Breach}
    {segment : List (Exchange ρ)} (hbreaks : Breaks dictionary key breach segment) :
    ¬segment <:+: rest := by
  cases h with
  | unavailable | notFound | undescribed => simp [reaching] at htrace
  | read hreads =>
    cases hreads with
    | broken => cases hresult
    | kept hremovable hvendor hmodel =>
      obtain ⟨rfl, rfl⟩ := reaching_append_inj htrace
      intro hwithin
      rw [List.append_assoc, List.append_assoc] at hwithin
      have hfulfils : Fulfils _ .mediaRemovable _ := ⟨_, hremovable⟩
      have hwithin := hfulfils.infix_of_append hbreaks hwithin
      have hfulfils : Fulfils _ .deviceVendor _ := ⟨_, hvendor⟩
      have hwithin := hfulfils.infix_of_append hbreaks hwithin
      have hfulfils : Fulfils _ .deviceModel _ := ⟨_, hmodel⟩
      have hwithin := hfulfils.infix_of_append hbreaks hwithin
      rw [← List.append_nil (leaving _ _ _)] at hwithin
      have hnil := hbreaks.infix_of_append not_looksUp_leaving hwithin
      obtain ⟨answer, reads, rfl, _⟩ := hbreaks.eq_cons
      simp at hnil

theorem isError_iff (h : Told name trace result) :
    (∃ error, result = .error error) ↔
      ∃ session disk dictionary rest, trace = reaching name session disk dictionary ++ rest ∧
        ∃ key breach segment, Breaks dictionary key breach segment ∧ segment <:+: rest := by
  constructor
  · rintro ⟨error, herror⟩
    obtain ⟨session, disk, dictionary, reads, key, breach, htrace, hfirst, _⟩ := h.first herror
    obtain ⟨segment, hbreaks, hsuffix⟩ := hfirst.exists_suffix
    refine ⟨session, disk, dictionary, _, htrace, key, breach, segment, hbreaks, ?_⟩
    exact hsuffix.isInfix.trans (List.prefix_append reads _).isInfix
  · rintro ⟨session, disk, dictionary, rest, htrace, key, breach, segment, hbreaks, hwithin⟩
    cases result with
    | error error => exact ⟨error, rfl⟩
    | ok lookup => exact absurd hwithin (h.not_isInfix rfl htrace hbreaks)

theorem unread (h : Told name trace result) {error : QueryError} (herror : result = .error error) :
    ∃ earlier key later, Key.inOrder = earlier ++ key :: later ∧ error.key? = some key ∧
      ∀ exchange ∈ trace, ∀ other ∈ later, ¬exchange.call.LooksUp other := by
  obtain ⟨session, disk, dictionary, reads, key, breach, rfl, hfirst, rfl⟩ := h.first herror
  obtain ⟨earlier, later, hkeys, hunread⟩ := hfirst.exists_split (by decide)
  refine ⟨earlier, key, later, hkeys, breach.key?_error key, ?_⟩
  rw [List.forall_mem_append, List.forall_mem_append]
  exact ⟨fun exchange hmem other _ => not_looksUp_reaching exchange hmem other, hunread,
    fun exchange hmem other _ => not_looksUp_leaving exchange hmem other⟩

theorem cleanText (h : Told name trace result) {attributes : Attributes} {text : String}
    (hresult : result = .ok (.described attributes))
    (htext : attributes.vendor = some text ∨ attributes.model = some text) :
    CleanText trace text := by
  cases h with
  | unavailable | notFound => cases hresult
  | undescribed =>
    cases hresult
    simp at htext
  | @read session disk dictionary reads result hreads =>
    cases hreads with
    | broken => cases hresult
    | @kept first second third removable vendor model hremovable hvendor hmodel =>
      cases hresult
      simp only [Option.map_eq_some_iff] at htext
      rcases htext with ⟨text, rfl, rfl⟩ | ⟨text, rfl, rfl⟩
      · exact hvendor.cleanText ⟨reaching name session disk dictionary ++ first,
          third ++ leaving session disk dictionary, by simp⟩
      · exact hmodel.cleanText ⟨reaching name session disk dictionary ++ (first ++ second),
          leaving session disk dictionary, by simp⟩

end Told

/-- Over a service that answers every call a query ends with a result, and its
calls justify it. -/
theorem justified_query (name : DeviceName) (service : Service ρ σ)
    (hservice : service.Answers) (state : σ) :
    ∃ result, ((query name).run service state).outcome = .ok result ∧
      Justified name ((query name).run service state).exchanges result := by
  obtain ⟨result, houtcome, htold⟩ := tells_query name σ service hservice state
  refine ⟨result, houtcome, ?_⟩
  exact {
    told := htold
    isError_iff := htold.isError_iff
    first := fun error herror => htold.first herror
    unread := fun error herror => htold.unread herror
    notOfWorker := fun error herror => htold.notOfWorker herror
    texts := fun attributes text hresult htext => htold.cleanText hresult htext }

/-- A service that answers with one reference to everything, with a negative
length, and with a copy that is no UTF-8. -/
def contrary : Service Nat Unit where
  answer
    | .createSession, _ => (.ok (some 1), ())
    | .createDisk _ _, _ => (.ok (some 1), ())
    | .copyDescription _, _ => (.ok (some 1), ())
    | .value _ _, _ => (.ok (some 1), ())
    | .boolean _, _ => (.ok (some true), ())
    | .textLength _, _ => (.ok (some (-1)), ())
    | .maxSize _, _ => (.ok 2, ())
    | .copyText _ _, _ => (.ok (true, [0xFF, 0, 0x41]), ())
    | .release _, _ => (.ok (), ())

/-- Over `contrary` the vendor is to blame, and the model is not looked up. -/
theorem justified_query_contrary :
    contrary.Answers ∧
      let run := (query ⟨[100], by decide⟩).run contrary ()
      run.outcome = .ok (.error (.invalidUtf8 .deviceVendor ⟨0, some 1⟩)) ∧
        Justified ⟨[100], by decide⟩ run.exchanges
          (.error (.invalidUtf8 .deviceVendor ⟨0, some 1⟩)) := by
  have hanswers : contrary.Answers := by
    intro call state
    cases call <;> exact ⟨_, rfl⟩
  have houtcome : ((query ⟨[100], by decide⟩).run contrary ()).outcome =
      .ok (.error (.invalidUtf8 .deviceVendor ⟨0, some 1⟩)) := by rfl
  obtain ⟨result, hresult, hjustified⟩ := justified_query ⟨[100], by decide⟩ contrary hanswers ()
  rw [houtcome] at hresult
  cases hresult
  exact ⟨hanswers, houtcome, hjustified⟩

end DiskQuery
