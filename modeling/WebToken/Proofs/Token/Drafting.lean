import Mathlib.Data.List.Induction
import WebToken.Policy.Requirement
import WebToken.Proofs.Json.RoundTrip
import WebToken.Proofs.Token.Registered
import WebToken.Token.Draft

/-!
# What a draft holds

The last edit that writes or drops a claim decides what the draft holds under its
name. From this every draft has registered claims of the right form, and holds
only values that were given to it or that its own setters make.
-/

set_option autoImplicit false

namespace WebToken

def Claims.assign (claims : Claims) (name : String) : Option Json → Claims
  | some value => claims.insert name value
  | none => claims.erase name

theorem Claims.find?_assign (claims : Claims) (name other : String) (value : Option Json) :
    (claims.assign name value).find? other =
      if other = name then value else claims.find? other := by
  cases value with
  | some value => exact find?_insert claims name other value
  | none => exact find?_erase claims name other

theorem Json.Members.find?_of_mem {members : Json.Members} (ordered : members.Ordered)
    {member : String × Json} (found : member ∈ members) :
    find? member.1 members = some member.2 := by
  induction members with
  | nil => cases found
  | cons head rest ih =>
      obtain ⟨above, tail⟩ := List.pairwise_cons.mp ordered
      rcases List.mem_cons.mp found with rfl | later
      · exact if_pos rfl
      · have different : member.1 ≠ head.1 := by
          intro same
          exact String.lt_irrefl head.1 (same ▸ above member later)
        rw [find?, if_neg different, ih tail later]

/-- Claims are written without floats if none of their values has one. -/
theorem Claims.isPlain_toJson {claims : Claims}
    (plain : ∀ name value, claims.find? name = some value → value.IsPlain) :
    claims.toJson.IsPlain := by
  have listed : ∀ member ∈ claims.members, member.2.IsPlain := fun member found =>
    plain member.1 member.2 (Json.Members.find?_of_mem claims.ordered found)
  suffices ∀ members : Json.Members, (∀ member ∈ members, member.2.IsPlain) →
      Json.IntegersOnlyMembers members ∧ Json.OrderedMembers members by
    obtain ⟨integers, ordered⟩ := this claims.members listed
    exact ⟨integers, claims.ordered, ordered⟩
  intro members plain
  induction members with
  | nil => exact ⟨trivial, trivial⟩
  | cons member members ih =>
      obtain ⟨here, later⟩ := List.forall_mem_cons.mp plain
      obtain ⟨integers, ordered⟩ := ih later
      exact ⟨⟨here.1, integers⟩, ⟨here.2, ordered⟩⟩

namespace Draft

/-!
## Edits of claims
-/

def claims (draft : Draft) : Part → Claims
  | .header => draft.header
  | .payload => draft.payload

def assign (draft : Draft) (part : Part) (name : String) (value : Option Json) : Draft :=
  match part with
  | .header => { draft with header := draft.header.assign name value }
  | .payload => { draft with payload := draft.payload.assign name value }

/-- The claim that an edit writes, or drops if it has no value. A refused edit does
neither. -/
def Edit.assignment? : Edit → Option (Part × String × Option Json)
  | .headerClaim name value => some (.header, name, some value)
  | .keyId value => some (.header, HeaderName.keyId, some (.string value))
  | .issuer value => some (.payload, Registered.issuer, some (.string value))
  | .subject value => some (.payload, Registered.subject, some (.string value))
  | .audience [] => some (.payload, Registered.audience, none)
  | .audience [single] => some (.payload, Registered.audience, some (.string single))
  | .audience several =>
      some (.payload, Registered.audience, some (.array (several.map .string)))
  | .expiresAt instant =>
      some (.payload, Registered.expiresAt, some (.ofInt64 instant.unixSeconds))
  | .notBefore instant =>
      some (.payload, Registered.notBefore, some (.ofInt64 instant.unixSeconds))
  | .issuedAt instant =>
      some (.payload, Registered.issuedAt, some (.ofInt64 instant.unixSeconds))
  | .tokenId value => some (.payload, Registered.tokenId, some (.string value))
  | .claim name value =>
      if nameError? name = none then some (.payload, name, some value) else none
  | .dateClaim name instant =>
      if nameError? name = none then some (.payload, name, some (.ofInt64 instant.unixSeconds))
      else none

/-- What an edit says of one claim: nothing, that it is dropped, or its value. -/
def Edit.saysOf (part : Part) (name : String) (change : Edit) : Option (Option Json) :=
  change.assignment?.bind fun assignment =>
    if assignment.1 = part ∧ assignment.2.1 = name then some assignment.2.2 else none

theorem edit_eq (draft : Draft) (change : Edit) :
    draft.edit change =
      match change.assignment? with
      | none => draft
      | some (part, name, value) => draft.assign part name value := by
  cases change with
  | audience audience =>
      match audience with
      | [] => rfl
      | [single] => rfl
      | first :: second :: others => rfl
  | claim name value =>
      simp only [edit, apply, setClaim, Edit.assignment?]
      cases nameError? name <;> rfl
  | dateClaim name instant =>
      simp only [edit, apply, setDateClaim, setClaim, Edit.assignment?]
      cases nameError? name <;> rfl
  | _ => rfl

theorem find?_assign (draft : Draft) (written part : Part) (name other : String)
    (value : Option Json) :
    ((draft.assign written name value).claims part).find? other =
      if written = part ∧ name = other then value else (draft.claims part).find? other := by
  cases written <;> cases part <;> simp [assign, claims, Claims.find?_assign, eq_comm]

theorem find?_edit (draft : Draft) (change : Edit) (part : Part) (name : String) :
    ((draft.edit change).claims part).find? name =
      (change.saysOf part name).getD ((draft.claims part).find? name) := by
  rw [edit_eq, Edit.saysOf]
  cases change.assignment? with
  | none => rfl
  | some assignment =>
      obtain ⟨written, other, value⟩ := assignment
      rw [find?_assign, Option.bind_some]
      split <;> rfl

/-- After a run of edits a claim holds what the last edit that says something of it
says. -/
theorem find?_editAll (edits : List Edit) (part : Part) (name : String) :
    (((new.editAll edits).claims part).find? name) =
      (edits.reverse.findSome? (Edit.saysOf part name)).join := by
  induction edits using List.reverseRecOn with
  | nil => cases part <;> rfl
  | append_singleton edits change ih =>
      rw [editAll_append, List.reverse_append, List.reverse_singleton, List.singleton_append,
        List.findSome?_cons]
      refine (find?_edit _ change part name).trans ?_
      cases change.saysOf part name with
      | none => exact ih
      | some value => rfl

/-!
## Values that are held
-/

theorem Edit.assignment?_of_saysOf {change : Edit} {part : Part} {name : String}
    {value : Option Json} (said : change.saysOf part name = some value) :
    change.assignment? = some (part, name, value) := by
  obtain ⟨⟨written, other, held⟩, assigned, about⟩ := Option.bind_eq_some_iff.mp said
  obtain ⟨⟨rfl, rfl⟩, same⟩ := Option.ite_none_right_eq_some.mp about
  rw [assigned, ← Option.some.inj same]

theorem exists_edit_of_find? {edits : List Edit} (part : Part) {name : String} {value : Json}
    (found : ((new.editAll edits).claims part).find? name = some value) :
    ∃ change ∈ edits, change.assignment? = some (part, name, some value) := by
  rw [find?_editAll] at found
  have last : edits.reverse.findSome? (Edit.saysOf part name) = some (some value) := by
    cases asked : edits.reverse.findSome? (Edit.saysOf part name) with
    | none =>
        rw [asked] at found
        cases found
    | some held =>
        rw [asked] at found
        exact congrArg some found
  obtain ⟨change, member, said⟩ := List.exists_of_findSome?_eq_some last
  exact ⟨change, List.mem_reverse.mp member, Edit.assignment?_of_saysOf said⟩

def Edit.values : Edit → List Json
  | .headerClaim _ value => [value]
  | .claim _ value => [value]
  | _ => []

theorem isPlain_strings (texts : List String) : Json.IsPlain (.array (texts.map .string)) := by
  induction texts with
  | nil => exact ⟨trivial, trivial⟩
  | cons text texts ih => exact ⟨⟨trivial, ih.1⟩, ⟨trivial, ih.2⟩⟩

/-- What edits write and drop, by the kind of the value. Claims that have a setter of
their own are written by that setter alone. -/
inductive Edit.Writes : Edit → Part → String → Option Json → Prop
  | headerClaim (name : String) (given : Json) :
      Writes (.headerClaim name given) .header name (some given)
  | keyId (text : String) : Writes (.keyId text) .header HeaderName.keyId (some (.string text))
  | text (change : Edit) {name : String}
      (named : name ∈ [Registered.issuer, Registered.subject, Registered.tokenId])
      (text : String) : Writes change .payload name (some (.string text))
  | noAudience : Writes (.audience []) .payload Registered.audience none
  | audience (change : Edit) {value : Json} (form : Payload.isAudience value = true)
      (plain : value.IsPlain) : Writes change .payload Registered.audience (some value)
  | date (change : Edit) {name : String}
      (named : name ∈ Registered.dates ∨ nameError? name = none) (instant : Instant) :
      Writes change .payload name (some (.ofInt64 instant.unixSeconds))
  | claim {name : String} (accepted : nameError? name = none) (given : Json) :
      Writes (.claim name given) .payload name (some given)

theorem Edit.writes {change : Edit} {part : Part} {name : String} {value : Option Json}
    (assigned : change.assignment? = some (part, name, value)) :
    change.Writes part name value := by
  cases change with
  | headerClaim other given => cases assigned; exact .headerClaim name given
  | keyId text => cases assigned; exact .keyId text
  | issuer text => cases assigned; exact .text _ (by decide) text
  | subject text => cases assigned; exact .text _ (by decide) text
  | tokenId text => cases assigned; exact .text _ (by decide) text
  | audience texts =>
      match texts with
      | [] => cases assigned; exact .noAudience
      | [single] => cases assigned; exact .audience _ rfl ⟨trivial, trivial⟩
      | first :: second :: others =>
          cases assigned
          exact .audience _ (Payload.isAudience_iff.mpr (.inr ⟨_, rfl⟩))
            (isPlain_strings (first :: second :: others))
  | expiresAt instant => cases assigned; exact .date _ (.inl (by decide)) instant
  | notBefore instant => cases assigned; exact .date _ (.inl (by decide)) instant
  | issuedAt instant => cases assigned; exact .date _ (.inl (by decide)) instant
  | claim other given =>
      obtain ⟨accepted, same⟩ := Option.ite_none_right_eq_some.mp assigned
      cases same
      exact .claim accepted given
  | dateClaim other instant =>
      obtain ⟨accepted, same⟩ := Option.ite_none_right_eq_some.mp assigned
      cases same
      exact .date _ (.inr accepted) instant

theorem Edit.Writes.isPlain {change : Edit} {part : Part} {name : String} {value : Json}
    (writes : change.Writes part name (some value))
    (plain : ∀ given ∈ change.values, given.IsPlain) : value.IsPlain := by
  cases writes with
  | headerClaim => exact plain value List.mem_cons_self
  | keyId text => exact ⟨trivial, trivial⟩
  | text _ named text => exact ⟨trivial, trivial⟩
  | audience _ form plain => exact plain
  | date _ named instant => exact ⟨trivial, trivial⟩
  | claim accepted => exact plain value List.mem_cons_self

/-!
## Registered claims
-/

theorem nameError?_eq_none_iff {name : String} :
    nameError? name = none ↔ name ∉ "" :: Registered.names := by
  unfold nameError?
  rw [List.mem_cons, not_or]
  by_cases empty : name = ""
  · simp [empty]
  · by_cases registered : name ∈ Registered.names
    · simp [empty, registered]
    · simp [empty, registered]

theorem not_registered {name : String} (accepted : nameError? name = none) :
    name ∉ Registered.names := fun registered =>
  nameError?_eq_none_iff.mp accepted (List.mem_cons_of_mem _ registered)

/-- The names of dates are apart from those of texts and of the audience. -/
theorem dates_apart : ∀ name ∈ Registered.dates, name ∈ Registered.names ∧
    name ∉ [Registered.issuer, Registered.subject, Registered.tokenId] ∧
      name ≠ Registered.audience := by
  decide

theorem Edit.Writes.exists_instant {change : Edit} {name : String} {value : Json}
    (writes : change.Writes .payload name (some value)) (dated : name ∈ Registered.dates) :
    ∃ instant : Instant, value = .ofInt64 instant.unixSeconds := by
  obtain ⟨registered, notText, notAudience⟩ := dates_apart name dated
  cases writes with
  | text _ named text => exact absurd named notText
  | audience _ form plain => exact absurd rfl notAudience
  | date _ named instant => exact ⟨instant, rfl⟩
  | claim accepted => exact absurd registered (not_registered accepted)

theorem Edit.Writes.isAudience {change : Edit} {value : Json}
    (writes : change.Writes .payload Registered.audience (some value)) :
    Payload.isAudience value = true := by
  have registered : Registered.audience ∈ Registered.names := by decide
  generalize addressed : Registered.audience = name at writes registered
  cases writes with
  | text _ named text => exact rfl
  | audience _ form plain => exact form
  | date _ named instant =>
      rcases named with dated | accepted
      · exact absurd addressed.symm (dates_apart name dated).2.2
      · exact absurd registered (not_registered accepted)
  | claim accepted => exact absurd registered (not_registered accepted)

theorem Edit.Writes.isPlain_of_registered {change : Edit} {name : String} {value : Json}
    (writes : change.Writes .payload name (some value)) (registered : name ∈ Registered.names) :
    value.IsPlain := by
  cases writes with
  | text _ named text => exact ⟨trivial, trivial⟩
  | audience _ form plain => exact plain
  | date _ named instant => exact ⟨trivial, trivial⟩
  | claim accepted => exact absurd registered (not_registered accepted)

theorem truncate?_ofInt64 (second : Int64) : (Json.ofInt64 second).truncate? = some second := by
  have signed : (Json.Number.ofInt64 second).int64? = some second := by
    rw [Json.Number.ofInt64, Json.Number.int64?, if_pos (Int64.toInt_lt second),
      Int64.ofInt_toInt]
  change (Json.Number.ofInt64 second).truncate? = some second
  rw [Json.Number.truncate?, signed]

theorem exists_edit_of_node? {edits : List Edit} {name : String} {node : Json}
    (present : (new.editAll edits).payload.node? name = some node) :
    ∃ change ∈ edits, change.assignment? = some (.payload, name, some node) :=
  exists_edit_of_find? .payload (Claims.node?_eq_some_iff.mp present).1

theorem defect?_editAll (edits : List Edit) :
    Payload.defect? (new.editAll edits).payload = none := by
  have dates : Registered.dates.findSome?
      (Payload.dateDefect? (new.editAll edits).payload) = none := by
    refine List.findSome?_eq_none_iff.mpr fun name dated => ?_
    unfold Payload.dateDefect?
    cases present : (new.editAll edits).payload.node? name with
    | none => rfl
    | some node =>
        obtain ⟨change, -, assigned⟩ := exists_edit_of_node? present
        obtain ⟨instant, rfl⟩ := (Edit.writes assigned).exists_instant dated
        simp only [truncate?_ofInt64]
  rw [Payload.defect?, dates, Payload.audienceDefect?]
  cases present : (new.editAll edits).payload.node? Registered.audience with
  | none => rfl
  | some node =>
      obtain ⟨change, -, assigned⟩ := exists_edit_of_node? present
      simp only [(Edit.writes assigned).isAudience, ↓reduceIte]

/-!
## The claims that are signed
-/

theorem isPlain_payload {edits : List Edit}
    (plain : ∀ change ∈ edits, ∀ given ∈ change.values, given.IsPlain) :
    (new.editAll edits).payload.toJson.IsPlain := by
  refine Claims.isPlain_toJson fun name value found => ?_
  obtain ⟨change, member, assigned⟩ := exists_edit_of_find? .payload found
  exact (Edit.writes assigned).isPlain (plain change member)

theorem headerFor_eq (draft : Draft) (algorithm : Algorithm) :
    draft.headerFor algorithm =
      if draft.header.find? HeaderName.type = none then
        (draft.header.insert HeaderName.algorithm (.string algorithm.name)).insert HeaderName.type
          (.string "JWT")
      else draft.header.insert HeaderName.algorithm (.string algorithm.name) := by
  have apart : HeaderName.type ≠ HeaderName.algorithm := by decide
  have typed : (draft.header.insert HeaderName.algorithm (.string algorithm.name)).find?
      HeaderName.type = draft.header.find? HeaderName.type := by
    rw [Claims.find?_insert, if_neg apart]
  rw [headerFor, Claims.contains, typed]
  cases draft.header.find? HeaderName.type with
  | none => rfl
  | some value => rfl

/-- Every name but those of the algorithm and the type is signed as it was set. -/
theorem find?_headerFor (draft : Draft) (algorithm : Algorithm) (name : String) :
    (draft.headerFor algorithm).find? name =
      if name = HeaderName.algorithm then some (.string algorithm.name)
      else if name = HeaderName.type ∧ draft.header.find? HeaderName.type = none then
        some (.string "JWT")
      else draft.header.find? name := by
  have apart : HeaderName.type ≠ HeaderName.algorithm := by decide
  rw [headerFor_eq]
  by_cases unset : draft.header.find? HeaderName.type = none
  · rw [if_pos unset, Claims.find?_insert]
    by_cases named : name = HeaderName.type
    · rw [if_pos named, if_neg (named ▸ apart), if_pos ⟨named, unset⟩]
    · simp only [named, false_and, ↓reduceIte, Claims.find?_insert]
  · simp only [unset, and_false, ↓reduceIte, Claims.find?_insert]

theorem isPlain_headerFor {edits : List Edit} (algorithm : Algorithm)
    (plain : ∀ change ∈ edits, ∀ given ∈ change.values, given.IsPlain) :
    ((new.editAll edits).headerFor algorithm).toJson.IsPlain := by
  refine Claims.isPlain_toJson fun name value found => ?_
  rw [find?_headerFor] at found
  split at found
  next => cases found; exact ⟨trivial, trivial⟩
  next =>
    split at found
    next => cases found; exact ⟨trivial, trivial⟩
    next =>
      obtain ⟨change, member, assigned⟩ := exists_edit_of_find? .header found
      exact (Edit.writes assigned).isPlain (plain change member)

/-- Header claims but the key's identifier are only ever written, and by name. -/
theorem Edit.Writes.eq_headerClaim {change : Edit} {name : String} {value : Option Json}
    (writes : change.Writes .header name value) (unkeyed : name ≠ HeaderName.keyId) :
    ∃ given, change = .headerClaim name given ∧ value = some given := by
  cases writes with
  | headerClaim _ given => exact ⟨given, rfl, rfl⟩
  | keyId text => exact absurd rfl unkeyed

/-- The type is unset exactly if no edit sets it. -/
theorem find?_type_eq_none_iff (edits : List Edit) :
    (new.editAll edits).header.find? HeaderName.type = none ↔
      ∀ value, Edit.headerClaim HeaderName.type value ∉ edits := by
  have unkeyed : HeaderName.type ≠ HeaderName.keyId := by decide
  constructor
  · intro unset value member
    have written : (Edit.headerClaim HeaderName.type value).saysOf .header HeaderName.type =
        some (some value) := rfl
    -- No edit drops a header claim, so the last one about the type holds a value.
    have last := find?_editAll edits .header HeaderName.type
    cases asked : edits.reverse.findSome? (Edit.saysOf .header HeaderName.type) with
    | none =>
        have silent := List.findSome?_eq_none_iff.mp asked _ (List.mem_reverse.mpr member)
        cases written.symm.trans silent
    | some held =>
        obtain ⟨change, -, said⟩ := List.exists_of_findSome?_eq_some asked
        obtain ⟨given, -, rfl⟩ :=
          (Edit.writes (Edit.assignment?_of_saysOf said)).eq_headerClaim unkeyed
        rw [asked] at last
        cases unset.symm.trans last
  · intro never
    cases set : (new.editAll edits).header.find? HeaderName.type with
    | none => rfl
    | some value =>
        obtain ⟨change, member, assigned⟩ := exists_edit_of_find? .header set
        obtain ⟨given, rfl, -⟩ := (Edit.writes assigned).eq_headerClaim unkeyed
        exact absurd member (never given)

end Draft

end WebToken
