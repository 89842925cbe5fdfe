import FuturesDesk.Proofs.UnitOrders

/-!
# Declined frames

A text frame that is not admitted as a command is answered once and changes
nothing else. What it is answered with follows from the first question it fails:
whether it is a ping, whether it reads as a command, and the guards in turn.
-/

namespace FuturesDesk

namespace Session

/-- A text is admitted if it is no ping, reads as a command and passes all guards. -/
def Admits (s : Session) (now : UInt64) (t : String) : Prop :=
  t ≠ ping ∧ ∃ c, Command.ofText t = .ok c ∧ ∀ g : Guard, g.stops s now c = false

inductive Declines (s : Session) (now : UInt64) (t : String) : Frame → Prop
  | pong (hp : t = ping) : Declines s now t .pong
  | unread {flaw : Command.Flaw} {e : ErrorCode} (hp : t ≠ ping) (hread : Command.ofText t = .error flaw)
      (hcode : e.code = -3) : Declines s now t (.message (.error e flaw.fault.message))
  | stopped {c : Command} {e : ErrorCode} {before after : List Guard} {g : Guard} (hp : t ≠ ping)
      (hread : Command.ofText t = .ok c) (horder : Guard.order = before ++ g :: after)
      (hpassed : ∀ g' ∈ before, g'.stops s now c = false) (hstops : g.stops s now c = true)
      (hcode : e.code = g.code) : Declines s now t (.message (.error e (g.rejection s c).reason))

variable {s : Session} {now : UInt64} {t : String} {ticket : Nat → Ticket}

theorem text_of_ofText {c : Command} (hp : t ≠ ping) (hread : Command.ofText t = .ok c) :
    s.text now t ticket = (s.command now c ticket).1 := by
  unfold text
  rw [if_neg hp, hread]

theorem declines_of_first? {c : Command} {g : Guard} (hp : t ≠ ping) (hread : Command.ofText t = .ok c)
    (hg : Guard.first? s now c = some g) :
    s.Declines now t (.message (.error (g.rejection s c).code (g.rejection s c).reason)) := by
  obtain ⟨hstops, before, after, horder, hpassed⟩ := List.find?_eq_some_iff_append.mp hg
  apply Declines.stopped hp hread horder ?_ hstops (g.code_rejection s c)
  intro g' hg'
  simpa using hpassed g' hg'

theorem text_of_not_admits (h : ¬ s.Admits now t) (ticket : Nat → Ticket) :
    ∃ f, s.Declines now t f ∧ s.text now t ticket = s.push f := by
  by_cases hp : t = ping
  · refine ⟨_, .pong hp, ?_⟩
    unfold text
    rw [if_pos hp]
  cases hread : Command.ofText t with
  | error flaw =>
    refine ⟨.message (.error .decodeFailed _), .unread hp hread rfl, ?_⟩
    unfold text
    rw [if_neg hp, hread]
    rfl
  | ok c =>
    cases hg : Guard.first? s now c with
    | none => exact absurd ⟨hp, c, hread, first?_eq_none_iff.mp hg⟩ h
    | some g =>
      refine ⟨_, declines_of_first? hp hread hg, ?_⟩
      rw [text_of_ofText hp hread]
      unfold command
      rw [refusal?_eq, hg]
      rfl

theorem journal_lt_of_admits (h : s.Admits now t) :
    s.registry.journal.length < (s.text now t ticket).registry.journal.length := by
  obtain ⟨hp, c, hread, hpass⟩ := h
  have hpos := Int64.lt_iff_toInt_lt.mp (Command.quantity_pos_of_ofText hread)
  have hcount : 0 < unitCount c := Int.pos_iff_toNat_pos.mp hpos
  have hsent := sent_placeUnits s now c ((List.range (unitCount c)).map ticket)
  rw [text_of_ofText hp hread, command_of_refusal?_none (refusal?_eq_none_iff.mpr hpass), hsent.calls, unitsOf]
  simp [hcount]

/-- **Declined frames.** A text that is not admitted has exactly one frame
pushed, the one its first failure calls for, and nothing else is changed. A text
that is admitted always makes the session call the brokerage. -/
theorem declined_changes_nothing (s : Session) (now : UInt64) (t : String) (ticket : Nat → Ticket) :
    (¬ s.Admits now t ↔ ∃ f, s.Declines now t f ∧ s.text now t ticket = { s with out := s.out ++ [f] }) ∧
      (s.Admits now t ↔ s.registry.journal.length < (s.text now t ticket).registry.journal.length) := by
  have hsilent : ∀ f, s.text now t ticket = s.push f →
      ¬ s.registry.journal.length < (s.text now t ticket).registry.journal.length := by
    intro f hf
    rw [hf]
    exact Nat.lt_irrefl _
  refine ⟨⟨fun ha => text_of_not_admits ha ticket, ?_⟩, ⟨journal_lt_of_admits, ?_⟩⟩
  · rintro ⟨f, -, hf⟩ ha
    exact hsilent f hf (journal_lt_of_admits ha)
  · intro hlt
    by_contra ha
    obtain ⟨f, -, hf⟩ := text_of_not_admits ha ticket
    exact hsilent f hf hlt

end Session

end FuturesDesk
