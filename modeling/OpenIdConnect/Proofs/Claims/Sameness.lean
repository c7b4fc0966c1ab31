import OpenIdConnect.Proofs.Claims.FiniteMap
import OpenIdConnect.Proofs.Claims.Resolution
import OpenIdConnect.Proofs.Claims.RoundTrip

/-!
# When claims requests are the same

Valid claims requests are the same exactly when at each place they ask for the same of every claim,
and for the same verified claims.  A selection that asks for nothing counts as absent, so that even
the presence of one need not be compared.
-/

namespace OpenIdConnect

namespace Claims

namespace Selection

/-- Selections are the same exactly when every lookup answers the same. -/
theorem same_iff_get? {s t : Selection} (distinct : s.keys.Nodup) (distinct' : t.keys.Nodup) :
    (s == t) = true ↔ ∀ k, (s.get? k == t.get? k) = true := by
  rw [same_iff_toMap distinct distinct']
  refine forall_congr' fun k => ?_
  rw [lookup_toMap, lookup_toMap]

/-- Where something is asked for, some lookup finds it. -/
theorem exists_get?_of_asks {s : Selection} (asks : s.isEmpty = false) :
    ∃ k c, s.get? k = some c := by
  obtain ⟨claims⟩ := s
  cases claims with
  | nil => cases asks
  | cons c rest =>
      refine ⟨c.key, c, ?_⟩
      rw [get?, List.find?_cons, beq_self_eq_true]

end Selection

namespace Side

/-- A selection that is there asks for some claim. -/
theorem Valid.exists_claim? {s : Side} (valid : s.Valid) {claims : Selection}
    (present : s.plain = some claims) : ∃ k c, s.claim? k = some c := by
  obtain ⟨k, c, found⟩ := Selection.exists_get?_of_asks (valid.plain claims present).2
  refine ⟨k, c, ?_⟩
  rw [claim?, present]
  exact found

/-- Sides are the same exactly when every lookup answers the same and so do their lists. -/
theorem same_iff_claim? {s t : Side} (valid : s.Valid) (valid' : t.Valid) :
    (s == t) = true ↔
      (∀ k, (s.claim? k == t.claim? k) = true) ∧ (s.verified == t.verified) = true := by
  rw [same_iff]
  refine and_congr_left' ?_
  cases first : s.plain with
  | none =>
      have silent (k : Key) : s.claim? k = none := by rw [claim?, first, Option.bind_none]
      cases second : t.plain with
      | none =>
          have silent' (k : Key) : t.claim? k = none := by rw [claim?, second, Option.bind_none]
          simp [silent, silent']
      | some more =>
          obtain ⟨k, c, found⟩ := valid'.exists_claim? second
          refine iff_of_false Bool.false_ne_true fun agree => ?_
          have here := agree k
          rw [silent, found] at here
          cases here
  | some claims =>
      cases second : t.plain with
      | none =>
          obtain ⟨k, c, found⟩ := valid.exists_claim? first
          refine iff_of_false Bool.false_ne_true fun agree => ?_
          have here := agree k
          rw [found, claim?, second] at here
          cases here
      | some more =>
          unfold claim?
          rw [first, second]
          exact Selection.same_iff_get? (valid.plain claims first).1.distinct
            (valid'.plain more second).1.distinct

/-- Sides that answer every lookup alike, and have the same verified claims, are the same. -/
theorem same_of_claim? {s t : Side} (valid : s.Valid) (valid' : t.Valid)
    (agree : ∀ k, s.claim? k = t.claim? k) (verified : s.verified = t.verified) :
    (s == t) = true := by
  refine (same_iff_claim? valid valid').mpr ⟨?_, ?_⟩
  · intro k
    rw [agree]
    exact beq_self_eq_true _
  · rw [verified]
    exact Verified.same_self_of_valid valid'.verified

end Side

namespace Request

theorem same_iff_side {r r' : Request} :
    (r == r') = true ↔ ∀ place, (r.side place == r'.side place) = true := by
  rw [same_iff]
  constructor
  · rintro ⟨idToken, userinfo⟩ place
    cases place with
    | idToken => exact idToken
    | userinfo => exact userinfo
  · intro sides
    exact ⟨sides .idToken, sides .userinfo⟩

end Request

end Claims

end OpenIdConnect
