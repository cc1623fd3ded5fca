import WebToken.Proofs.Policy.Verdict
import WebToken.Proofs.Token.Registered

/-!
# Time windows over exact time

A date claim that nothing is expected of is held against its window. The check
counts in whole milliseconds; here its verdict is said in nanoseconds, and of
the exact number in the token. Milliseconds are cut off towards the epoch, so
that the two sides of the epoch have different bounds.
-/

set_option autoImplicit false

namespace WebToken

namespace Requirement

/-!
## The bounds of a window
-/

/-- Whether an instant is within the window of a date claim, give or take a
leeway in seconds. From the epoch on a token is still accepted in the first
millisecond after it expires; before the epoch it is already accepted in the
last millisecond before it is valid. -/
def WithinWindow (name : String) (second leeway : Int) (now : Instant) : Prop :=
  if name = Registered.expiresAt then
    if 0 ≤ now.nanoseconds then now.nanoseconds < (second + leeway) * 1000000000 + 1000000
    else now.nanoseconds ≤ (second + leeway) * 1000000000
  else
    if 0 ≤ now.nanoseconds then second * 1000000000 ≤ now.nanoseconds + leeway * 1000000000
    else second * 1000000000 - 1000000 < now.nanoseconds + leeway * 1000000000

/-- What the window of a date claim lets pass: no claim, a null one, or a number
whose truncation is within the window. -/
def PassesWindow (claims : Claims) (name : String) (leeway : UInt64) (now : Instant) : Prop :=
  claims.find? name = none ∨ claims.find? name = some .null ∨
    ∃ number, claims.find? name = some (.number number) ∧
      WithinWindow name (towardZero number.value) leeway.toNat now

/-- The numbers that a window check computes. -/
def windowTerms (second : Int64) (leeway : UInt64) (now : Instant) : List Int :=
  [second.toInt * 1000, (leeway.toNat : Int) * 1000, now.unixMillis,
    now.unixMillis - (leeway.toNat : Int) * 1000, now.unixMillis + (leeway.toNat : Int) * 1000]

theorem windowTerms_bounds (second : Int64) (leeway : UInt64) (now : Instant) :
    ∀ term ∈ windowTerms second leeway now, -2 ^ 127 ≤ term ∧ term < 2 ^ 127 := by
  have seconds := Int64.le_toInt second
  have seconds' := Int64.toInt_lt second
  have leeways := leeway.toNat_lt
  obtain ⟨millis, millis'⟩ := now.unixMillis_bounds
  simp only [windowTerms, List.mem_cons, List.not_mem_nil, or_false]
  rintro term (rfl | rfl | rfl | rfl | rfl) <;> omega

/-!
## The check of a window
-/

/-- A date is within its window exactly if the comparison of milliseconds says so. -/
theorem withinWindow_iff (name : String) (second : Int64) (leeway : UInt64) (now : Instant) :
    WithinWindow name second.toInt leeway.toNat now ↔
      if name = Registered.expiresAt then
        now.unixMillis - (leeway.toNat : Int) * 1000 ≤ second.toInt * 1000
      else second.toInt * 1000 ≤ now.unixMillis + (leeway.toNat : Int) * 1000 := by
  unfold WithinWindow
  by_cases expiry : name = Registered.expiresAt
  · simp only [if_pos expiry]
    by_cases after : 0 ≤ now.nanoseconds
    · rw [if_pos after, Instant.unixMillis_of_nonneg after]
      omega
    · rw [if_neg after, Instant.unixMillis_of_neg (Int.not_le.mp after)]
      omega
  · simp only [if_neg expiry]
    by_cases after : 0 ≤ now.nanoseconds
    · rw [if_pos after, Instant.unixMillis_of_nonneg after]
      omega
    · rw [if_neg after, Instant.unixMillis_of_neg (Int.not_le.mp after)]
      omega

/-- A check passes whatever is no number. Otherwise expiry has to be late enough, and a
start early enough. -/
theorem checkWindow_eq_ok_iff_bounds {claim : Lookup} {nowMillis : Int} {leeway : UInt64} :
    checkWindow claim nowMillis leeway = .ok () ↔
      ∀ second, claim.node?.bind Json.truncate? = some second →
        (claim.name = Registered.expiresAt →
          saturate (nowMillis - (leeway.toNat : Int) * 1000) ≤ second.toInt * 1000) ∧
        (claim.name = Registered.notBefore ∨ claim.name = Registered.issuedAt →
          second.toInt * 1000 ≤ saturate (nowMillis + (leeway.toNat : Int) * 1000)) := by
  unfold checkWindow
  cases claim.node?.bind Json.truncate? with
  | none => exact ⟨fun _ => nofun, fun _ => rfl⟩
  | some second =>
      simp only [Option.some.injEq, forall_eq']
      by_cases expiry : claim.name = Registered.expiresAt
      · simp only [expiry, ↓reduceIte, forall_const, expiresAt_apart, false_imp_iff, and_true]
        split
        next late => exact ⟨nofun, fun within => absurd late (Int.not_lt.mpr within)⟩
        next intime => exact ⟨fun _ => Int.not_lt.mp intime, fun _ => rfl⟩
      · simp only [expiry, ↓reduceIte, false_imp_iff, true_and]
        by_cases starting : claim.name = Registered.notBefore ∨ claim.name = Registered.issuedAt
        · simp only [starting, ↓reduceIte, forall_const]
          split
          next early => exact ⟨nofun, fun within => absurd early (Int.not_lt.mpr within)⟩
          next begun => exact ⟨fun _ => Int.not_lt.mp begun, fun _ => rfl⟩
        · simp only [starting, ↓reduceIte, false_imp_iff]

theorem checkWindow_eq_ok_iff {name : String} (dated : name ∈ Registered.dates) {node : Json}
    {second : Int64} (date : node.truncate? = some second) (leeway : UInt64) (now : Instant) :
    checkWindow (.present name node) now.unixMillis leeway = .ok () ↔
      WithinWindow name second.toInt leeway.toNat now := by
  obtain ⟨difference, sum⟩ := saturate_leeway now leeway
  rw [withinWindow_iff, checkWindow_eq_ok_iff_bounds]
  simp only [Lookup.node?, Lookup.name, Option.bind_some, date, Option.some.injEq, forall_eq',
    difference, sum]
  by_cases expiry : name = Registered.expiresAt
  · simp only [expiry, ↓reduceIte, forall_const, expiresAt_apart, false_imp_iff, and_true]
  · have starting : name = Registered.notBefore ∨ name = Registered.issuedAt := by
      simpa [Registered.dates, expiry] using dated
    simp only [expiry, ↓reduceIte, starting, false_imp_iff, true_and, forall_const]

/-- The window of a date claim lets pass what its bounds allow, and finds a date
in every claim that is not null. -/
theorem check_window_eq_ok_iff {name : String} (dated : name ∈ Registered.dates)
    (leeway : UInt64) (token : Token) (now : Instant) :
    (⟨.payload, name, .window leeway⟩ : Requirement).check token now.unixMillis = .ok () ↔
      PassesWindow token.payload.claims name leeway now := by
  change checkWindow (.ofNode name (token.payload.claims.find? name)) now.unixMillis leeway =
    .ok () ↔ _
  unfold PassesWindow
  cases found : token.payload.claims.find? name with
  | none => exact ⟨fun _ => .inl rfl, fun _ => rfl⟩
  | some node =>
      by_cases null : node = .null
      · subst null
        exact ⟨fun _ => .inr (.inl rfl), fun _ => rfl⟩
      · obtain ⟨second, date⟩ := token.payload.exists_truncate? dated found null
        obtain ⟨number, rfl, truncated⟩ := Json.exists_number_of_truncate? date
        have checked := checkWindow_eq_ok_iff dated date leeway now
        rw [truncated] at checked
        refine checked.trans ⟨fun within => .inr (.inr ⟨number, rfl, within⟩), ?_⟩
        intro passes
        rcases passes with absent | absent | ⟨other, same, within⟩
        · cases absent
        · cases absent
        · cases same
          exact within

end Requirement

namespace Policy

theorem window_mem (algorithm : Algorithm) {edits : List Edit} {name : String}
    (dated : name ∈ Registered.dates) (free : expectedAfter edits .payload name = none)
    (kept : name = Registered.issuedAt → Edit.waiveIssuedAt ∉ edits) :
    ⟨.payload, name, .window (leewayAfter edits name)⟩ ∈
      ((new algorithm).editAll edits).verifier.requirements := by
  have unwaived : (name == Registered.issuedAt && edits.any Edit.isWaiver) = false := by
    rw [Bool.and_eq_false_iff, beq_eq_false_iff_ne, List.any_eq_false]
    by_cases issued : name = Registered.issuedAt
    · refine .inr fun change member waiver => ?_
      cases change with
      | waiveIssuedAt => exact kept issued member
      | _ => cases waiver
    · exact .inl issued
  have windowed : isWindowed edits name = true := by
    rw [isWindowed, free, unwaived]
    rfl
  rw [verifier, windowedRequirements_editAll]
  exact List.mem_append_right _
    (List.mem_map_of_mem (List.mem_filter.mpr ⟨dated, windowed⟩))

/-- The window of a date claim that nothing is expected of. It is in force, its
check is exact, and a text is accepted only within it. A claim that is there and
not null is a number of whole seconds in the signed 64-bit range, so that it is
never passed over, and no step of the check leaves the signed 128-bit range. -/
theorem verify_within_window (algorithm : Algorithm) (edits : List Edit) {name : String}
    (dated : name ∈ Registered.dates) (free : expectedAfter edits .payload name = none)
    (kept : name = Registered.issuedAt → Edit.waiveIssuedAt ∉ edits) (now : Instant)
    {text : String} {token : Token} (decoded : Token.decode text = .ok token) :
    ⟨.payload, name, .window (leewayAfter edits name)⟩ ∈
        ((new algorithm).editAll edits).verifier.requirements ∧
      ((⟨.payload, name, .window (leewayAfter edits name)⟩ : Requirement).check token
          now.unixMillis = .ok () ↔
        Requirement.PassesWindow token.payload.claims name (leewayAfter edits name) now) ∧
      (∀ accepted,
        (((new algorithm).editAll edits).verifier.verify now text).outcome = .ok accepted →
          accepted = token ∧
            Requirement.PassesWindow token.payload.claims name (leewayAfter edits name) now) ∧
      (∀ node, token.payload.claims.find? name = some node → node ≠ .null →
        ∃ number, node = .number number ∧ -2 ^ 63 ≤ towardZero number.value ∧
          towardZero number.value < 2 ^ 63) ∧
      ∀ (second : Int64) (leeway : UInt64) (moment : Instant),
        ∀ term ∈ Requirement.windowTerms second leeway moment,
          -2 ^ 127 ≤ term ∧ term < 2 ^ 127 ∧ Requirement.saturate term = term := by
  have member := window_mem algorithm dated free kept
  have exact_check := Requirement.check_window_eq_ok_iff dated (leewayAfter edits name) token now
  refine ⟨member, exact_check, ?_, ?_, ?_⟩
  · intro accepted verdict
    obtain ⟨taken, -, -, passes⟩ := Verifier.verify_eq_ok_iff.mp verdict
    obtain rfl : token = accepted := Except.ok.inj (decoded.symm.trans taken)
    exact ⟨rfl, exact_check.mp (passes _ member)⟩
  · intro node found notNull
    obtain ⟨second, date⟩ := token.payload.exists_truncate? dated found notNull
    obtain ⟨number, equal, truncated⟩ := Json.exists_number_of_truncate? date
    exact ⟨number, equal, truncated ▸ second.le_toInt, truncated ▸ second.toInt_lt⟩
  · intro second leeway moment term computed
    obtain ⟨lower, upper⟩ := Requirement.windowTerms_bounds second leeway moment term computed
    exact ⟨lower, upper, Requirement.saturate_eq_self lower upper⟩

/-- The fraction of a second in the claim is cut off before the leeway is added. -/
theorem verify_within_window_of_fraction :
    ∃ token, Token.decode "eyJhbGciOiJub25lIn0.eyJleHAiOjEuNX0." = .ok token ∧
      (((new .none).editAll [.allowLeeway 1]).verifier.verify ⟨2, 999999, by decide⟩
        "eyJhbGciOiJub25lIn0.eyJleHAiOjEuNX0.").outcome = .ok token ∧
      Requirement.PassesWindow token.payload.claims Registered.expiresAt 1
        ⟨2, 999999, by decide⟩ := by
  have accepts : (((new .none).editAll [.allowLeeway 1]).verifier.verify ⟨2, 999999, by decide⟩
      "eyJhbGciOiJub25lIn0.eyJleHAiOjEuNX0.").outcome.isOk = true := by
    decide +kernel
  cases verdict : (((new .none).editAll [.allowLeeway 1]).verifier.verify ⟨2, 999999, by decide⟩
      "eyJhbGciOiJub25lIn0.eyJleHAiOjEuNX0.").outcome with
  | error error =>
      rw [verdict] at accepts
      cases accepts
  | ok token =>
      have decoded := (Verifier.verify_eq_ok_iff.mp verdict).1
      have window := verify_within_window .none [.allowLeeway 1]
        (show Registered.expiresAt ∈ Registered.dates by decide) rfl
        (fun issued => absurd issued (by decide)) ⟨2, 999999, by decide⟩ decoded
      exact ⟨token, decoded, rfl, (window.2.2.1 token verdict).2⟩

end Policy

end WebToken
