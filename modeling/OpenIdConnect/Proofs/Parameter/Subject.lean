import OpenIdConnect.Parameter.Subject
import OpenIdConnect.Proofs.Parameter.Rereading

/-!
# Parameters about a subject, read and written

Which values these parameters read.  Each of them reads again what it writes, and writes what it
has read as it was, but for an audience that is listed alone.
-/

namespace OpenIdConnect

/-! ## Values that are read -/

/-- The value is a text. -/
def Json.IsText (v : Json) : Prop :=
  ∃ s, v = .string s

/-- The value is an integer of 64 bits with a sign. -/
def Json.IsInt64 (v : Json) : Prop :=
  ∃ n inRange, v = .number (.integer n inRange) ∧
    -9223372036854775808 ≤ n ∧ n < 9223372036854775808

/-- The value is one text, or a list of texts that is not empty. -/
def Json.IsAudience (v : Json) : Prop :=
  v.IsText ∨ ∃ items, v = .array items ∧ items ≠ [] ∧ ∀ item ∈ items, item.IsText

/-- The value is an object in which the event of a logout is an object. -/
def Json.IsLogout (v : Json) : Prop :=
  ∃ events event, v.object? = some events ∧
    events.get? "http://schemas.openid.net/event/backchannel-logout" = some (.object event)

/-- The event of a logout is among the events, as an object. -/
def Reports (events : Object) : Prop :=
  ∃ event, events.get? logoutEvent = some (.object event)

theorem Json.readString_eq_ok_iff {v : Json} {s : String} :
    v.readString = .ok s ↔ v = .string s := by
  cases v <;> simp [readString]

theorem readSubject_eq_ok_iff {v : Json} {s : String} :
    readSubject v = .ok s ↔ v = .string s ∧ s ≠ "" := by
  cases v with
  | string t =>
      unfold readSubject
      dsimp only
      constructor
      · intro read
        split at read
        · cases read
        · next filled =>
            cases read
            exact ⟨rfl, by simpa using filled⟩
      · rintro ⟨⟨⟩, filled⟩
        rw [if_neg (by simpa using filled)]
  | _ => simp [readSubject]

theorem mapM_readString_eq_ok_iff {items : List Json} {texts : List String} :
    items.mapM Json.readString = .ok texts ↔ items = texts.map .string := by
  rw [Outcome.mapM_eq_ok]
  exact Outcome.map_eq_ok_iff_eq_map fun _ _ => Json.readString_eq_ok_iff

/-- Audiences are read from one text, or from the list of all of them. -/
theorem readAudience_eq_ok_iff {v : Json} {audience : NonEmpty String} :
    readAudience v = .ok audience ↔
      v = .string audience.first ∧ audience.rest = [] ∨
        v = .array (audience.toList.map .string) := by
  obtain ⟨first, rest⟩ := audience
  cases v with
  | string s =>
      unfold readAudience NonEmpty.single
      simp [eq_comm]
  | array items =>
      unfold readAudience
      rw [Outcome.bind_eq_ok]
      constructor
      · rintro ⟨texts, read, checked⟩
        rw [mapM_readString_eq_ok_iff] at read
        cases texts with
        | nil => cases checked
        | cons text texts =>
            cases checked
            exact .inr (congrArg Json.array read)
      · rintro (⟨impossible, _⟩ | listed)
        · cases impossible
        · cases listed
          exact ⟨first :: rest, mapM_readString_eq_ok_iff.mpr rfl, rfl⟩
  | _ => simp [readAudience]

theorem readEvents_eq_ok_iff {v : Json} {events : Object} :
    readEvents v = .ok events ↔ v.object? = some events ∧ Reports events := by
  cases v with
  | object members =>
      unfold readEvents
      constructor
      · intro read
        dsimp only at read
        split at read
        · next event found =>
            cases read
            exact ⟨rfl, event, found⟩
        · cases read
        · cases read
      · rintro ⟨⟨⟩, event, found⟩
        dsimp only
        rw [found]
  | _ => simp [readEvents, Json.object?]

theorem readInt64_eq_ok_iff {v : Json} {n : Int64} :
    v.readInt64 = .ok n ↔ v = .ofInt64 n := by
  cases v with
  | number m =>
      cases m with
      | integer value inRange =>
          unfold Json.readInt64 Json.ofInt64
          dsimp only
          constructor
          · intro read
            split at read
            · next small =>
                cases read
                have kept : (Int64.ofInt value).toInt = value :=
                  Int64.toInt_ofInt_of_le inRange.1 small
                simp [kept]
            · cases read
          · rintro ⟨⟩
            have small : n.toInt < 9223372036854775808 := n.toInt_lt
            rw [if_pos small, Int64.ofInt_toInt]
      | float x => simp [Json.readInt64, Json.ofInt64]
  | _ => simp [Json.readInt64, Json.ofInt64]

/-! ## Which values are read -/

theorem exists_readString_iff (v : Json) : (∃ s, v.readString = .ok s) ↔ v.IsText :=
  exists_congr fun _ => Json.readString_eq_ok_iff

theorem exists_readAudience_iff (v : Json) : (∃ a, readAudience v = .ok a) ↔ v.IsAudience := by
  cases v with
  | string s => exact ⟨fun _ => .inl ⟨s, rfl⟩, fun _ => ⟨.single s, rfl⟩⟩
  | array items =>
      constructor
      · rintro ⟨audience, read⟩
        rcases readAudience_eq_ok_iff.mp read with ⟨impossible, _⟩ | listed
        · cases impossible
        · cases listed
          refine .inr ⟨_, rfl, List.cons_ne_nil _ _, ?_⟩
          intro item member
          obtain ⟨s, _, rfl⟩ := List.mem_map.mp member
          exact ⟨s, rfl⟩
      · rintro (⟨s, ⟨⟩⟩ | ⟨_, ⟨⟩, filled, each⟩)
        obtain ⟨texts, read⟩ := Outcome.exists_map_eq_ok_iff.mpr fun item member =>
          (exists_readString_iff item).mpr (each item member)
        have listed := mapM_readString_eq_ok_iff.mp (Outcome.mapM_eq_ok.mpr read)
        subst listed
        cases texts with
        | nil => exact absurd rfl filled
        | cons first rest => exact ⟨⟨first, rest⟩, readAudience_eq_ok_iff.mpr (.inr rfl)⟩
  | _ => simp [readAudience, Json.IsAudience, Json.IsText]

theorem exists_readEvents_iff (v : Json) : (∃ e, readEvents v = .ok e) ↔ v.IsLogout := by
  simp only [readEvents_eq_ok_iff]
  constructor
  · rintro ⟨events, object, event, found⟩
    exact ⟨events, event, object, found⟩
  · rintro ⟨events, event, object, found⟩
    exact ⟨events, object, event, found⟩

theorem exists_readInt64_iff (v : Json) : (∃ n, v.readInt64 = .ok n) ↔ v.IsInt64 := by
  simp only [readInt64_eq_ok_iff]
  constructor
  · rintro ⟨n, rfl⟩
    exact ⟨n.toInt, _, rfl, n.le_toInt, n.toInt_lt⟩
  · rintro ⟨n, inRange, rfl, least, most⟩
    refine ⟨Int64.ofInt n, ?_⟩
    unfold Json.ofInt64
    have kept : (Int64.ofInt n).toInt = n := Int64.toInt_ofInt_of_le least most
    simp [kept]

theorem exists_readSubject_iff (v : Json) :
    (∃ s, readSubject v = .ok s) ↔ ∃ s, v = .string s ∧ s ≠ "" :=
  exists_congr fun _ => readSubject_eq_ok_iff

/-! ## Values that are written -/

/-- A list of one item gives way to the item. -/
def Json.alone : Json → Json
  | .array [item] => item
  | v => v

theorem writeAudience_of_read {v : Json} {audience : NonEmpty String}
    (read : readAudience v = .ok audience) : writeAudience audience = v.alone := by
  obtain ⟨first, rest⟩ := audience
  rcases readAudience_eq_ok_iff.mp read with ⟨rfl, single⟩ | rfl
  · cases single
    rfl
  · cases rest <;> rfl

namespace Parameter

theorem rereads_audience (a : NonEmpty String) : Rereads audience a := by
  obtain ⟨first, rest⟩ := a
  refine readAudience_eq_ok_iff.mpr ?_
  cases rest with
  | nil => exact .inl ⟨rfl, rfl⟩
  | cons second rest => exact .inr rfl

theorem rereads_time (name : String) (n : Int64) : Rereads (time name) n :=
  readInt64_eq_ok_iff.mpr rfl

theorem rereads_events {e : Object} (reports : Reports e) : Rereads events e :=
  readEvents_eq_ok_iff.mpr ⟨e.object?_toJson, reports⟩

end Parameter

end OpenIdConnect
