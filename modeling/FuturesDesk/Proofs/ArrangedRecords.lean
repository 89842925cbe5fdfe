import Mathlib.Data.List.Forall2
import FuturesDesk.Json.Record
import FuturesDesk.Table

/-!
# Records in any arrangement

The members of an object may stand in any order and among others that the record
does not know, and those that have a default may be left out.
-/

namespace FuturesDesk.Json.Record

variable {α β : Type}

/-! ## Members of a record -/

def given (slots : List (String × Option Json)) : List (Key × Json) :=
  slots.filterMap fun m => m.2.map fun j => (.name m.1, j)

/-- The members of an object: these in any order, and among them others of
other names. -/
def Arranges (slots : List (String × Option Json)) (ms : List (Key × Json)) : Prop :=
  ∃ others, ms.Perm (given slots ++ others) ∧ ∀ m ∈ others, ∃ name, m.1 = .name name ∧ name ∉ slots.map (·.1)

structure Fits (f : Field) (m : String × Option Json) : Prop where
  name : f.name = m.1
  readable : ∀ j, m.2 = some j → f.check j = .ok ()
  spared : m.2 = none → f.presence ≠ .required

/-- Of these members, in the order of the fields, the record reads this value. -/
structure Fills (r : Record α) (slots : List (String × Option Json)) (a : α) : Prop where
  fits : List.Forall₂ Fits r.fields slots
  builds : ∀ get : String → Option Json, (∀ m ∈ slots, get m.1 = m.2) → r.build get = .ok a

theorem Fills.map {r : Record α} {slots : List (String × Option Json)} {a : α} (h : r.Fills slots a) (f : α → β) :
    (f <$> r).Fills slots (f a) where
  fits := h.fits
  builds get hget := congrArg (Except.map f) (h.builds get hget)

theorem Fills.seq {r : Record (α → β)} {q : Record α} {slots slots' : List (String × Option Json)} {f : α → β} {a : α}
    (h : r.Fills slots f) (hq : q.Fills slots' a) : (r <*> q).Fills (slots ++ slots') (f a) where
  fits := List.rel_append h.fits hq.fits
  builds get hget := by
    have hf := h.builds get fun m hm => hget m (List.mem_append_left _ hm)
    have ha := hq.builds get fun m hm => hget m (List.mem_append_right _ hm)
    change (r.build get >>= fun g => q.build get >>= fun a => pure (g a)) = _
    rw [hf, ha]
    rfl

theorem fills_given (name : String) (presence : Presence) {d : Decoder α} {j : Json} {a : α} (h : d j = .ok a)
    (absent : Except Problem α) : (field name presence d absent).Fills [(name, some j)] a where
  fits := .cons ⟨rfl, fun _ hj => Option.some.inj hj ▸ congrArg (Except.map fun _ => ()) h, fun hj => nomatch hj⟩ .nil
  builds get hget := by simp only [field, hget (name, some j) (by simp), h]

theorem fills_left (name : String) {presence : Presence} (hspared : presence ≠ .required) (d : Decoder α)
    {absent : Except Problem α} {a : α} (h : absent = .ok a) :
    (field name presence d absent).Fills [(name, none)] a where
  fits := .cons ⟨rfl, fun _ hj => (nomatch hj), fun _ => hspared⟩ .nil
  builds get hget := by simp only [field, hget (name, none) (by simp), h]

/-- A member that has a default: it may be left out where that is the value. -/
inductive Optionally (j : Json) (isDefault : Prop) : Option Json → Prop
  | given : Optionally j isDefault (some j)
  | left (h : isDefault) : Optionally j isDefault none

theorem fills_required (name : String) {d : Decoder α} {j : Json} {a : α} (h : d j = .ok a) :
    (required name d).Fills [(name, some j)] a := fills_given name _ h _

theorem fills_defaulted (name : String) {d : Decoder α} {j : Json} {a b : α} (h : d j = .ok a) {o : Option Json}
    (ho : Optionally j (a = b) o) : (defaulted name d b).Fills [(name, o)] a := by
  cases ho with
  | given => exact fills_given name _ h _
  | left hdefault => exact fills_left name (by decide) d (hdefault ▸ rfl)

/-! ## Reading an object -/

section
variable {fields : List Field} {slots : List (String × Option Json)}

theorem names_of_fits (h : List.Forall₂ Fits fields slots) : fields.map (·.name) = slots.map (·.1) := by
  induction h with
  | nil => rfl
  | cons hm _ ih => rw [List.map_cons, List.map_cons, hm.name, ih]

theorem exists_field (h : List.Forall₂ Fits fields slots) {m : String × Option Json} (hm : m ∈ slots) :
    ∃ f ∈ fields, Fits f m := by
  induction h with
  | nil => cases hm
  | @cons f n fields slots hfirst _ ih =>
    rcases List.mem_cons.mp hm with rfl | hm
    · exact ⟨f, by simp, hfirst⟩
    · obtain ⟨g, hg, hfit⟩ := ih hm
      exact ⟨g, by simp [hg], hfit⟩

theorem exists_slot (h : List.Forall₂ Fits fields slots) {f : Field} (hf : f ∈ fields) : ∃ m ∈ slots, Fits f m := by
  induction h with
  | nil => cases hf
  | @cons g m fields slots hfirst _ ih =>
    rcases List.mem_cons.mp hf with rfl | hf
    · exact ⟨m, by simp, hfirst⟩
    · obtain ⟨n, hn, hfit⟩ := ih hf
      exact ⟨n, by simp [hn], hfit⟩

theorem find?_name (hn : (fields.map (·.name)).Nodup) {f : Field} (hf : f ∈ fields) :
    fields.find? (·.name == f.name) = some f := by
  induction fields with
  | nil => cases hf
  | cons g fields ih =>
    obtain ⟨hg, hn⟩ := List.nodup_cons.mp hn
    rcases List.mem_cons.mp hf with rfl | hf
    · simp
    · have hne : g.name ≠ f.name := fun he => hg (List.mem_map.mpr ⟨f, hf, he.symm⟩)
      simp [hne, ih hn hf]

def known? (fields : List Field) (m : Key × Json) : Option String :=
  match m.1 with
  | .name name => (fields.find? (·.name == name)).map fun _ => name
  | .unreadable => none

/-- A member that the survey passes over: it can be read for its field, or it has
none. -/
inductive Passes (fields : List Field) : Key × Json → Prop
  | known {name : String} {j : Json} {f : Field} (hfield : fields.find? (·.name == name) = some f)
      (hcheck : f.check j = .ok ()) : Passes fields (.name name, j)
  | unknown {name : String} {j : Json} (hfield : fields.find? (·.name == name) = none)
      (hcomplete : j.isComplete = true) : Passes fields (.name name, j)

theorem survey_passes {ms : List (Key × Json)} (hms : ∀ m ∈ ms, Passes fields m) (seen : List String)
    (hn : (ms.filterMap (known? fields)).Nodup) (hseen : ∀ name ∈ ms.filterMap (known? fields), name ∉ seen) :
    survey fields ms seen = .ok ((ms.filterMap (known? fields)).reverse ++ seen) := by
  induction ms generalizing seen with
  | nil => rfl
  | cons m ms ih =>
    have hrest : ∀ m ∈ ms, Passes fields m := fun m' hm => hms m' (by simp [hm])
    cases hms m (by simp) with
    | @known name j f hfield hcheck =>
      have hknown : known? fields (.name name, j) = some name := by simp [known?, hfield]
      rw [List.filterMap_cons_some hknown] at hn hseen ⊢
      obtain ⟨hfresh, hn⟩ := List.nodup_cons.mp hn
      have hunseen : seen.contains name = false := by simpa using hseen name (by simp)
      simp only [survey, hfield, hunseen, hcheck]
      rw [List.reverse_cons, List.append_assoc]
      refine ih hrest (name :: seen) hn fun name' hmem => ?_
      have hne : name' ≠ name := fun he => hfresh (he ▸ hmem)
      simp [hne, hseen name' (by simp [hmem])]
    | @unknown name j hfield hcomplete =>
      have hunknown : known? fields (.name name, j) = none := by simp [known?, hfield]
      rw [List.filterMap_cons_none hunknown] at hn hseen ⊢
      simp only [survey, hfield, hcomplete, if_true]
      exact ih hrest seen hn hseen

theorem missing_of_seen {seen : List String} (h : ∀ f ∈ fields, f.presence = .required → f.name ∈ seen) :
    missing fields seen = .ok () := by
  have hnone : fields.find? (fun f => f.presence == .required && !seen.contains f.name) = none := by
    rw [List.find?_eq_none]
    intro f hf
    by_cases hrequired : f.presence = .required
    · simp [h f hf hrequired]
    · simp [hrequired]
  simp only [missing, hnone]

theorem lookup_eq_of_mem_iff {ms : List (Key × Json)} {name : String} {o : Option Json}
    (h : ∀ j, (.name name, j) ∈ ms ↔ o = some j) : lookup ms name = o := by
  unfold lookup
  cases hl : ms.lookup (.name name) with
  | none =>
    cases o with
    | none => rfl
    | some j =>
      have hne := List.lookup_eq_none_iff.mp hl _ ((h j).mpr rfl)
      simp at hne
  | some j =>
    obtain ⟨front, back, rfl, -⟩ := List.lookup_eq_some_iff.mp hl
    exact ((h j).mp (by simp)).symm

/-! ### The members of an arrangement -/

theorem mem_given_iff {name : String} {j : Json} : (.name name, j) ∈ given slots ↔ (name, some j) ∈ slots := by
  simp only [given, List.mem_filterMap, Option.map_eq_some_iff, Prod.mk.injEq, Key.name.injEq]
  constructor
  · rintro ⟨⟨k, o⟩, hm, j', rfl, rfl, rfl⟩
    exact hm
  · intro hm
    exact ⟨_, hm, j, rfl, rfl, rfl⟩

theorem Arranges.mem_iff {ms : List (Key × Json)} (h : Arranges slots ms) (hn : (slots.map (·.1)).Nodup)
    {m : String × Option Json} (hm : m ∈ slots) (j : Json) : (.name m.1, j) ∈ ms ↔ m.2 = some j := by
  obtain ⟨others, hperm, hothers⟩ := h
  rw [hperm.mem_iff, List.mem_append, mem_given_iff]
  constructor
  · rintro (hgiven | hother)
    · exact Option.some.inj ((Table.lookup_of_mem hn hm).symm.trans (Table.lookup_of_mem hn hgiven))
    · obtain ⟨name, hname, hnot⟩ := hothers _ hother
      cases hname
      exact absurd (List.mem_map.mpr ⟨m, hm, rfl⟩) hnot
  · intro hj
    rw [← hj]
    exact .inl hm

theorem find?_eq_none_of_not_mem (h : List.Forall₂ Fits fields slots) {name : String}
    (hnot : name ∉ slots.map (·.1)) : fields.find? (·.name == name) = none := by
  rw [← names_of_fits h] at hnot
  rw [List.find?_eq_none]
  intro f hf he
  exact hnot (List.mem_map.mpr ⟨f, hf, eq_of_beq he⟩)

theorem known_given_sublist (fields : List Field) (slots : List (String × Option Json)) :
    ((given slots).filterMap (known? fields)).Sublist (slots.map (·.1)) := by
  have hname : ∀ name j other, known? fields (.name name, j) = some other → other = name := by
    intro name j other h
    obtain ⟨_, -, he⟩ := Option.map_eq_some_iff.mp h
    exact he.symm
  induction slots with
  | nil => exact .slnil
  | cons m slots ih =>
    obtain ⟨name, o⟩ := m
    cases o with
    | none => exact ih.cons _
    | some j =>
      change (List.filterMap (known? fields) ((.name name, j) :: given slots)).Sublist _
      cases hk : known? fields (.name name, j) with
      | none =>
        rw [List.filterMap_cons_none hk]
        exact ih.cons _
      | some other =>
        rw [List.filterMap_cons_some hk, hname name j other hk]
        exact ih.cons_cons _

namespace Arranges

variable {ms : List (Key × Json)} (h : Arranges slots ms) (hfits : List.Forall₂ Fits fields slots)
  (hn : (slots.map (·.1)).Nodup)

include h hfits hn in
theorem known_nodup : (ms.filterMap (known? fields)).Nodup := by
  obtain ⟨others, hperm, hothers⟩ := h
  have hnone : others.filterMap (known? fields) = [] := by
    rw [List.filterMap_eq_nil_iff]
    rintro ⟨key, j⟩ hm
    obtain ⟨name, hname, hnot⟩ := hothers _ hm
    cases hname
    simp [known?, find?_eq_none_of_not_mem hfits hnot]
  rw [(hperm.filterMap _).nodup_iff, List.filterMap_append, hnone, List.append_nil]
  exact (known_given_sublist fields slots).nodup hn

include h hfits hn in
theorem passes (hcomplete : ∀ m ∈ ms, m.2.isComplete = true) : ∀ m ∈ ms, Passes fields m := by
  obtain ⟨others, hperm, hothers⟩ := h
  rintro ⟨key, j⟩ hm
  rcases List.mem_append.mp (hperm.mem_iff.mp hm) with hgiven | hother
  · obtain ⟨⟨name, o⟩, hslot, hkey⟩ := List.mem_filterMap.mp hgiven
    obtain ⟨j', rfl, hpair⟩ := Option.map_eq_some_iff.mp hkey
    cases hpair
    obtain ⟨f, hf, hfit⟩ := exists_field hfits hslot
    have hname : f.name = name := hfit.name
    exact .known (hname ▸ find?_name (names_of_fits hfits ▸ hn) hf) (hfit.readable j rfl)
  · obtain ⟨name, hname, hnot⟩ := hothers _ hother
    cases hname
    exact .unknown (find?_eq_none_of_not_mem hfits hnot) (hcomplete _ hm)

include h hfits hn in
theorem required_seen {f : Field} (hf : f ∈ fields) (hrequired : f.presence = .required) :
    f.name ∈ ms.filterMap (known? fields) := by
  obtain ⟨⟨name, o⟩, hslot, hfit⟩ := exists_slot hfits hf
  have hname : f.name = name := hfit.name
  cases o with
  | none => exact absurd hrequired (hfit.spared rfl)
  | some j =>
    refine List.mem_filterMap.mpr ⟨(.name name, j), (h.mem_iff hn hslot j).mpr rfl, ?_⟩
    simp only [known?, ← hname, find?_name (names_of_fits hfits ▸ hn) hf, Option.map_some]

end Arranges

theorem isComplete_of_mem {ms : List (Key × Json)} (h : (Json.object ms true).isComplete = true) :
    ∀ m ∈ ms, m.2.isComplete = true := by
  have hms : membersComplete ms = true := h
  clear h
  induction ms with
  | nil => simp
  | cons m ms ih =>
    obtain ⟨key, j⟩ := m
    obtain ⟨hm, hms⟩ := Bool.and_eq_true_iff.mp hms
    intro m' hmem
    rcases List.mem_cons.mp hmem with rfl | hmem
    · exact hm
    · exact ih hms m' hmem

/-- An object with the members of a record is read, however they are arranged. -/
theorem Fills.decoder {r : Record α} {a : α} (h : r.Fills slots a) (hn : (slots.map (·.1)).Nodup)
    {ms : List (Key × Json)} (harr : Arranges slots ms) (hcomplete : (Json.object ms true).isComplete = true)
    (type : String) : r.decoder type (.object ms true) = .ok a := by
  have hpasses := harr.passes h.fits hn (isComplete_of_mem hcomplete)
  have hsurvey := survey_passes hpasses [] (harr.known_nodup h.fits hn) (by simp)
  have hmissing : missing r.fields ((ms.filterMap (known? r.fields)).reverse ++ []) = .ok () := by
    refine missing_of_seen fun f hf hrequired => ?_
    rw [List.append_nil, List.mem_reverse]
    exact harr.required_seen h.fits hn hf hrequired
  have hbuild := h.builds (lookup ms) fun m hm => lookup_eq_of_mem_iff (harr.mem_iff hn hm)
  change (survey r.fields ms [] >>= _) = _
  rw [hsurvey]
  change (missing r.fields _ >>= _) = _
  rw [hmissing]
  exact hbuild

end

end FuturesDesk.Json.Record
