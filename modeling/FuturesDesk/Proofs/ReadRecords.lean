import FuturesDesk.Proofs.ArrangedRecords
import FuturesDesk.Proofs.WrittenDocuments

/-!
# Records member by member

A record is read from an object with one member for each of its fields. And
whatever object or array a record is read from, its values come from its fields.
-/

namespace FuturesDesk

namespace Json

variable {ε α β : Type}

theorem exists_of_bind {x : Except ε α} {f : α → Except ε β} {b : β} (h : (x >>= f) = .ok b) :
    ∃ a, x = .ok a ∧ f a = .ok b := by
  cases x with
  | error e => cases h
  | ok a => exact ⟨a, rfl, h⟩

theorem exists_of_map {x : Except ε α} {f : α → β} {b : β} (h : x.map f = .ok b) :
    ∃ a, x = .ok a ∧ f a = b := by
  cases x with
  | error e => cases h
  | ok a => exact ⟨a, rfl, Except.ok.inj h⟩

/-! ## Values -/

namespace Decoder

structure Reads (d : Decoder α) (j : Json) (a : α) : Prop where
  written : j.IsWritten
  value : d j = .ok a

/-- Whatever document a value is read from, it is such. -/
def Gives (d : Decoder α) (p : α → Prop) : Prop := ∀ j a, d j = .ok a → p a

theorem Reads.run {d : Decoder α} {j : Json} {a : α} (h : d.Reads j a) : d.run j.render = .ok a :=
  (run_render d h.written).trans h.value

theorem Gives.run {d : Decoder α} {p : α → Prop} (h : d.Gives p) {text : String} {a : α} (ha : d.run text = .ok a) :
    p a :=
  h _ a (run_eq_ok.mp ha).1

theorem reads_str {d : Decoder α} {s : String} {a : α} (h : d (.str s) = .ok a) : d.Reads (.str s) a := ⟨rfl, h⟩

theorem reads_text (s : String) : Decoder.Reads .text (.str s) s := reads_str rfl

theorem reads_bool (b : Bool) : Decoder.Reads .bool (.bool b) b := ⟨trivial, rfl⟩

theorem reads_null (d : Decoder α) : d.nullable.Reads .null none := ⟨trivial, rfl⟩

theorem Reads.nullable {d : Decoder α} {j : Json} {a : α} (h : d.Reads j a) (hj : j ≠ .null) :
    d.nullable.Reads j (some a) := by
  refine ⟨h.written, ?_⟩
  cases j with
  | null => exact absurd rfl hj
  | _ => simp only [Decoder.nullable, h.value, Except.map]

theorem Gives.nullable {d : Decoder α} {p : α → Prop} (h : d.Gives p) : d.nullable.Gives fun o => ∀ a ∈ o, p a := by
  intro j o ho a ha
  cases j with
  | null => cases ho; cases ha
  | _ =>
    obtain ⟨b, hb, rfl⟩ := exists_of_map ho
    cases ha
    exact h _ _ hb

end Decoder

namespace Record

/-! ## One member for each field -/

/-- Of these members, the fields' own in their order, the record reads this
value. -/
structure Reads (r : Record α) (ms : List (String × Json)) (a : α) : Prop where
  written : ∀ m ∈ ms, m.2.IsWritten
  fills : r.Fills (ms.map fun m => (m.1, some m.2)) a

theorem Reads.map {r : Record α} {ms : List (String × Json)} {a : α} (h : r.Reads ms a) (f : α → β) :
    (f <$> r).Reads ms (f a) := ⟨h.written, h.fills.map f⟩

theorem Reads.seq {r : Record (α → β)} {q : Record α} {ms ns : List (String × Json)} {f : α → β} {a : α}
    (h : r.Reads ms f) (hq : q.Reads ns a) : (r <*> q).Reads (ms ++ ns) (f a) where
  written m hm := (List.mem_append.mp hm).elim (h.written m) (hq.written m)
  fills := by
    rw [List.map_append]
    exact h.fills.seq hq.fills

theorem reads_field (name : String) (presence : Presence) {d : Decoder α} {j : Json} {a : α} (h : d.Reads j a)
    (absent : Except Problem α) : (field name presence d absent).Reads [(name, j)] a where
  written _ hm := List.mem_singleton.mp hm ▸ h.written
  fills := fills_given name presence h.value absent

theorem reads_required (name : String) {d : Decoder α} {j : Json} {a : α} (h : d.Reads j a) :
    (required name d).Reads [(name, j)] a := reads_field name _ h _

theorem reads_defaulted (name : String) {d : Decoder α} (b : α) {j : Json} {a : α} (h : d.Reads j a) :
    (defaulted name d b).Reads [(name, j)] a := reads_field name _ h _

theorem Reads.decoder {r : Record α} {ms : List (String × Json)} {a : α} (h : r.Reads ms a)
    (hn : (ms.map (·.1)).Nodup) (type : String) : (r.decoder type).Reads (.record ms) a := by
  refine ⟨isWritten_record h.written, ?_⟩
  have hn' : ((ms.map fun m => (m.1, some m.2)).map (·.1)).Nodup := by simpa [Function.comp_def] using hn
  have hgiven : given (ms.map fun m => (m.1, some m.2)) = ms.map fun m => (.name m.1, m.2) := by
    simp [given, List.filterMap_map]
  exact h.fills.decoder hn' ⟨[], by rw [hgiven, List.append_nil], by simp⟩
    (isWritten_record h.written).isComplete type

/-! ## Any document -/

def Gives (r : Record α) (p : α → Prop) : Prop := ∀ get a, r.build get = .ok a → p a

theorem Gives.map {r : Record α} {p : α → Prop} {q : β → Prop} {f : α → β} (h : r.Gives p)
    (hf : ∀ a, p a → q (f a)) : (f <$> r).Gives q := by
  intro get b hb
  obtain ⟨a, ha, rfl⟩ := exists_of_map hb
  exact hf a (h get a ha)

theorem Gives.seq {r : Record (α → β)} {q : Record α} {p : α → Prop} {t : β → Prop}
    (h : r.Gives fun f => ∀ a, p a → t (f a)) (hq : q.Gives p) : (r <*> q).Gives t := by
  intro get b hb
  obtain ⟨f, hf, hrest⟩ := exists_of_bind hb
  obtain ⟨a, ha, hpure⟩ := exists_of_bind hrest
  cases hpure
  exact h get f hf a (hq get a ha)

theorem gives_field (name : String) (presence : Presence) {d : Decoder α} {absent : Except Problem α} {p : α → Prop}
    (hd : d.Gives p) (habsent : ∀ a, absent = .ok a → p a) : (field name presence d absent).Gives p := by
  intro get a ha
  simp only [field] at ha
  cases hget : get name with
  | some j =>
    rw [hget] at ha
    exact hd j a ha
  | none =>
    rw [hget] at ha
    exact habsent a ha

theorem gives_required (name : String) {d : Decoder α} {p : α → Prop} (hd : d.Gives p) :
    (required name d).Gives p := gives_field name _ hd fun _ h => nomatch h

theorem gives_defaulted (name : String) {d : Decoder α} {b : α} {p : α → Prop} (hd : d.Gives p)
    (hb : p b) : (defaulted name d b).Gives p := gives_field name _ hd fun _ h => Except.ok.inj h ▸ hb

theorem gives_any (r : Record α) : r.Gives fun _ => True := fun _ _ _ => trivial

theorem Gives.decoder {r : Record α} {p : α → Prop} (h : r.Gives p) (type : String) : (r.decoder type).Gives p := by
  intro j a ha
  cases j with
  | object ms closed =>
    obtain ⟨seen, -, hrest⟩ := exists_of_bind ha
    cases closed with
    | false => cases hrest
    | true =>
      obtain ⟨-, -, hbuild⟩ := exists_of_bind hrest
      exact h _ a hbuild
  | array js closed =>
    obtain ⟨-, -, hbuild⟩ := exists_of_bind ha
    exact h _ a hbuild
  | _ => cases ha

end Record

end Json

end FuturesDesk
