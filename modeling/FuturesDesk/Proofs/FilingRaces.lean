import FuturesDesk.Proofs.AssistOrders
import FuturesDesk.Proofs.CommandGuards

/-!
# Updates while a command is filed

The registry tracks an accepted unit before the session enrolls it, and updates
may be heard in between. Such an update changes the order in the registry but
not the copy that is enrolled afterwards, which stays behind until the next
change. If the order has ended in between, there is no next change.
-/

namespace FuturesDesk

theorem Status.rank_lt_of_ne {s u : Status} (hlive : ¬ s.isTerminal) (hle : s.rank ≤ u.rank) (hne : s ≠ u) :
    s.rank < u.rank := by
  refine Nat.lt_of_le_of_ne hle fun he => ?_
  cases s <;> cases u <;> simp_all [isTerminal, rank]

theorem Table.find?_eq_none_of_size {α : Type} {t : Table α} (h : t.size = 0) (id : String) : t.find? id = none := by
  have hentries : t.entries = [] := List.eq_nil_of_length_eq_zero h
  rw [find?, hentries]
  rfl

theorem Registry.rank_lt_of_merge {r : Registry} {now : UInt64} {u : StatusUpdate} {o : Order}
    (h : (r.merge now u).2 = some o) :
    ∃ s, r.status? u.orderId = some s ∧ ¬ s.isTerminal ∧ s.rank < u.status.rank ∧
      (r.merge now u).1.status? u.orderId = some u.status := by
  obtain ⟨before, hbefore, rfl, hs, -, hlive, hne⟩ := of_merge_some h
  have hstatus : r.status? u.orderId = some before.status := status?_eq_some.mpr ⟨before, hbefore, rfl⟩
  have hnext : before.status.next u.status = u.status := (Order.merged_status ..).symm.trans hs
  have hrank := before.status.rank_le_next u.status
  rw [hnext] at hrank
  refine ⟨_, hstatus, hlive, Status.rank_lt_of_ne hlive hrank hne, ?_⟩
  rw [status?_merge, if_pos rfl, hstatus, Option.map_some, hnext]

namespace Session

/-- The session keeps an accepted unit; the client is not shown it yet. -/
def enroll (s : Session) (c : Command) (o : Order) : Session :=
  match c.option with
  | some option => { s with pending := s.pending.insert o.id ⟨o, option⟩ }
  | none => { s with waiting := s.waiting.add o.id }

theorem fileUnit_eq (s : Session) (c : Command) (o : Order) : s.fileUnit c o = (s.enroll c o).send (.order o) := rfl

end Session

/-- How far a command is with the unit in hand. -/
inductive Filing.Stage where
  | idle
  /-- The registry tracks the order; the session does not know it. -/
  | recorded (o : Order)
  | enrolled (o : Order)

structure Filing where
  command : Command
  session : Session
  stage : Filing.Stage := .idle

namespace Filing

inductive Turn where
  | submit (now : UInt64) (ticket : Ticket)
  | enroll
  | announce
  | status (now : UInt64) (u : StatusUpdate)

def turn (f : Filing) : Turn → Filing
  | .submit now ticket =>
    match f.stage with
    | .idle =>
      let (s, p) := f.session.submitUnit now f.command ticket
      match p.result with
      | .ok _ => { f with session := s, stage := .recorded p.order }
      | .error fault => { f with session := s.reportUnit p.order fault }
    | _ => f
  | .enroll =>
    match f.stage with
    | .recorded o => { f with session := f.session.enroll f.command o, stage := .enrolled o }
    | _ => f
  | .announce =>
    match f.stage with
    | .enrolled o => { f with session := f.session.send (.order o), stage := .idle }
    | _ => f
  | .status now u => { f with session := f.session.status now u }

def run (f : Filing) (turns : List Turn) : Filing := turns.foldl turn f

def unit (now : UInt64) (ticket : Ticket) : List Turn := [.submit now ticket, .enroll, .announce]

/-- A turn gives an order of the registry its status: the order is accepted
under that id, or an update changes it. -/
def Changes (f : Filing) (id : String) : Turn → Prop
  | .submit _ ticket => f.stage = .idle ∧ ticket.answer.accepted?.map (·.orderId) = some id
  | .status now u => u.orderId = id ∧ (f.session.registry.merge now u).2.isSome
  | .enroll | .announce => False

/-- An update for an order is heard after it was recorded and before it is
enrolled. -/
def InGap (f : Filing) (id : String) (t : Turn) : Prop :=
  ∃ now u o, t = .status now u ∧ f.stage = .recorded o ∧ o.id = id

/-- What last changed an order in the registry was heard in its gap. -/
def Missed (f : Filing) (id : String) (turns : List Turn) : Prop :=
  ∃ before t after, turns = before ++ t :: after ∧ (f.run before).Changes id t ∧ (f.run before).InGap id t ∧
    ∀ mid t' rest, after = mid ++ t' :: rest → ¬ (f.run (before ++ t :: mid)).Changes id t'

def copy? (f : Filing) (id : String) : Option Status :=
  match f.stage with
  | .recorded o => if o.id = id then some o.status else (f.session.pending.find? id).map (·.order.status)
  | .idle | .enrolled _ => (f.session.pending.find? id).map (·.order.status)

/-- The copy of an order stands as the registry does, or behind it if a change
was missed. -/
structure Account (f : Filing) (id : String) (missed : Prop) : Prop where
  unassisted : f.command.option = none → f.session.pending.find? id = none
  given : ∀ s, f.copy? id = some s → id ∈ f.session.registry.given
  named : ∀ s, f.copy? id = some s → s ≠ .unknown
  tracked : ∀ s, f.copy? id = some s →
    ∃ st, f.session.registry.status? id = some st ∧ (¬ missed → st = s) ∧ (missed → s.rank < st.rank)

section
variable {f : Filing} {id : String} {missed : Prop} {turns : List Turn} {t : Turn} {o : Order}

theorem run_snoc (f : Filing) (turns : List Turn) (t : Turn) : f.run (turns ++ [t]) = (f.run turns).turn t := by
  simp [run]

/-! ## Nothing in between -/

theorem run_unit (c : Command) (s : Session) (now : UInt64) (ticket : Ticket) :
    (⟨c, s, .idle⟩ : Filing).run (unit now ticket) = ⟨c, (s.placeUnit now c ticket).1, .idle⟩ := by
  simp only [run, unit, List.foldl_cons, List.foldl_nil, turn, Session.placeUnit, Session.fileUnit_eq]
  cases (s.submitUnit now c ticket).2.result with
  | error fault => rfl
  | ok reply => rfl

theorem run_units (c : Command) (s : Session) (now : UInt64) (tickets : List Ticket) :
    (⟨c, s, .idle⟩ : Filing).run (tickets.flatMap (unit now)) = ⟨c, (s.placeUnits now c tickets).1, .idle⟩ := by
  induction tickets generalizing s with
  | nil => rfl
  | cons ticket tickets ih =>
    have hsplit : (⟨c, s, .idle⟩ : Filing).run ((ticket :: tickets).flatMap (unit now)) =
        ((⟨c, s, .idle⟩ : Filing).run (unit now ticket)).run (tickets.flatMap (unit now)) := by
      simp [run]
    rw [hsplit, run_unit, ih]
    rfl

/-! ## Missed changes -/

theorem missed_snoc : f.Missed id (turns ++ [t]) ↔
    (f.Missed id turns ∧ ¬ (f.run turns).Changes id t) ∨
      (f.run turns).Changes id t ∧ (f.run turns).InGap id t := by
  constructor
  · rintro ⟨before, t', after, hsplit, hchanges, hgap, hlast⟩
    rcases snoc_eq_split hsplit with ⟨rfl, rfl, rfl⟩ | ⟨after', rfl, rfl⟩
    · exact Or.inr ⟨hchanges, hgap⟩
    · refine Or.inl ⟨⟨before, t', after', rfl, hchanges, hgap, fun mid t'' rest hafter => ?_⟩, ?_⟩
      · exact hlast mid t'' (rest ++ [t]) (by rw [hafter]; simp)
      · exact hlast after' t [] rfl
  · rintro (⟨⟨before, t', after, rfl, hchanges, hgap, hlast⟩, hnot⟩ | ⟨hchanges, hgap⟩)
    · refine ⟨before, t', after ++ [t], by simp, hchanges, hgap, fun mid t'' rest hafter => ?_⟩
      rcases snoc_eq_split hafter with ⟨rfl, rfl, rfl⟩ | ⟨rest', rfl, rfl⟩
      · exact hnot
      · exact hlast mid t'' rest' rfl
    · exact ⟨turns, t, [], rfl, hchanges, hgap, fun mid t'' rest hafter => by simp at hafter⟩

/-! ## Copies -/

theorem copy?_of_recorded (h : f.stage = .recorded o) (hid : o.id = id) : f.copy? id = some o.status := by
  rw [copy?, h]
  exact if_pos hid

theorem copy?_of_pending (h : ∀ o, f.stage = .recorded o → o.id ≠ id) :
    f.copy? id = (f.session.pending.find? id).map (·.order.status) := by
  unfold copy?
  split
  · rename_i o hstage
    exact if_neg (h o hstage)
  · rfl
  · rfl

theorem copy?_congr {f' : Filing} (hstage : f'.stage = f.stage)
    (hpending : f'.session.pending.find? id = f.session.pending.find? id) : f'.copy? id = f.copy? id := by
  unfold copy?
  rw [hstage, hpending]

theorem Account.frame (h : f.Account id missed) {f' : Filing} {missed' : Prop} (hcommand : f'.command = f.command)
    (hpending : f'.session.pending.find? id = f.session.pending.find? id) (hcopy : f'.copy? id = f.copy? id)
    (hgiven : f.session.registry.given <+: f'.session.registry.given)
    (hstatus : f'.session.registry.status? id = f.session.registry.status? id) (hmissed : missed' ↔ missed) :
    f'.Account id missed' where
  unassisted hn := hpending.trans (h.unassisted (hcommand ▸ hn))
  given s hs := hgiven.subset (h.given s (hcopy ▸ hs))
  named s hs := h.named s (hcopy ▸ hs)
  tracked s hs := by
    rw [hstatus, hmissed]
    exact h.tracked s (hcopy ▸ hs)

/-! ## Turns -/

theorem not_inGap (h : ∀ now u, t ≠ .status now u) : ¬ f.InGap id t := by
  rintro ⟨now, u, o, rfl, -⟩
  exact h now u rfl

theorem missed_of_not_changes (h : ¬ f.Changes id t) :
    missed ∧ ¬ f.Changes id t ∨ f.Changes id t ∧ f.InGap id t ↔ missed := by
  simp [h]

theorem turn_submit (h : f.stage = .idle) (now : UInt64) (ticket : Ticket) :
    (ticket.answer.accepted? = none ∧ ∃ out, f.turn (.submit now ticket) = { f with
      session := { (f.session.submitUnit now f.command ticket).1 with out } }) ∨
    ∃ reply, ticket.answer.accepted? = some reply ∧ f.turn (.submit now ticket) = { f with
      session := (f.session.submitUnit now f.command ticket).1
      stage := .recorded ((Session.unitOrder f.command ticket.group).accepted reply now) } := by
  have hresult : (f.session.submitUnit now f.command ticket).2 =
      f.session.registry.place now (Session.unitOrder f.command ticket.group) ticket.answer := rfl
  rcases f.session.registry.place_cases now (Session.unitOrder f.command ticket.group) ticket.answer with
    ⟨ha, ⟨reason, hres⟩, -, -⟩ | ⟨reply, ha, hres, horder, -, -⟩
  · refine Or.inl ⟨ha, ?_⟩
    simp only [turn, h, hresult, hres]
    exact ⟨_, rfl⟩
  · refine Or.inr ⟨reply, ha, ?_⟩
    simp only [turn, h, hresult, hres, horder]

theorem Account.submitted (h : f.Account id missed) (now : UInt64) (ticket : Ticket) (hidle : f.stage = .idle) :
    (f.turn (.submit now ticket)).Account id (missed ∧ ¬ f.Changes id (.submit now ticket) ∨
      f.Changes id (.submit now ticket) ∧ f.InGap id (.submit now ticket)) := by
  have hgrown := f.session.registry.grown_place now (Session.unitOrder f.command ticket.group) ticket.answer
  have hgiven : f.session.registry.given <+:
      (f.session.submitUnit now f.command ticket).1.registry.given := ⟨_, hgrown.given.symm⟩
  have hbefore : f.copy? id = (f.session.pending.find? id).map (·.order.status) :=
    copy?_of_pending (by simp [hidle])
  rcases turn_submit hidle now ticket with ⟨ha, out, he⟩ | ⟨reply, ha, he⟩
  · have hnot : ¬ f.Changes id (.submit now ticket) := by simp [Changes, ha]
    have hstatus : (f.session.submitUnit now f.command ticket).1.registry.status? id =
        f.session.registry.status? id := hgrown.status?_of_ne (by simp [Registry.accepted_of_refused _ _ _ ha])
    rw [he]
    refine h.frame rfl rfl ?_ hgiven hstatus (missed_of_not_changes hnot)
    exact (copy?_of_pending (by simp [hidle])).trans hbefore.symm
  · have hnew := Registry.accepted_of_accepted f.session.registry now
      (Session.unitOrder f.command ticket.group) ha
    by_cases hid : reply.orderId = id
    · -- the copy in hand is what the registry has just recorded
      have hcopy : (f.turn (.submit now ticket)).copy? id =
          some ((Session.unitOrder f.command ticket.group).accepted reply now).status := by
        rw [he]
        exact copy?_of_recorded rfl hid
      have hchanges : f.Changes id (.submit now ticket) := ⟨hidle, by rw [ha, ← hid]; rfl⟩
      have hgap : ¬ f.InGap id (.submit now ticket) := not_inGap (by simp)
      have hmem : id ∈ (f.turn (.submit now ticket)).session.registry.given := by
        rw [he]
        change id ∈
          (f.session.registry.place now (Session.unitOrder f.command ticket.group) ticket.answer).registry.given
        rw [hgrown.given, hnew]
        exact List.mem_append_right _ (List.mem_singleton.mpr hid.symm)
      have hstatus : (f.turn (.submit now ticket)).session.registry.status? id =
          some ((Session.unitOrder f.command ticket.group).accepted reply now).status := by
        rw [he]
        exact (hgrown.status?_eq id).trans (by simp [hnew, Order.accepted, hid])
      refine ⟨?_, fun _ _ => hmem, fun s hs => ?_, fun s hs => ⟨_, hstatus, fun _ => ?_, fun hmissed => ?_⟩⟩
      · rw [he]
        exact h.unassisted
      · rw [hcopy, Option.some.injEq] at hs
        rw [← hs]
        exact Registry.accepted_status_ne_unknown _ reply now
      · exact Option.some.inj (hcopy.symm.trans hs)
      · simp [hchanges, hgap] at hmissed
    · have hnot : ¬ f.Changes id (.submit now ticket) := by simp [Changes, ha, hid]
      have hstatus : (f.session.submitUnit now f.command ticket).1.registry.status? id =
          f.session.registry.status? id := hgrown.status?_of_ne (by
        rw [hnew]
        simpa [Order.accepted] using hid)
      rw [he]
      refine h.frame rfl rfl ?_ hgiven hstatus (missed_of_not_changes hnot)
      refine (copy?_of_pending ?_).trans hbefore.symm
      rintro o' ho'
      cases ho'
      exact hid

theorem Account.enrolled (h : f.Account id missed) (hrecorded : f.stage = .recorded o) :
    (f.turn .enroll).Account id missed := by
  have he : f.turn .enroll = { f with session := f.session.enroll f.command o, stage := .enrolled o } := by
    simp only [turn, hrecorded]
  have hcopy : ({ f with session := f.session.enroll f.command o, stage := .enrolled o } : Filing).copy? id =
      ((f.session.enroll f.command o).pending.find? id).map (·.order.status) := copy?_of_pending (by simp)
  have hregistry : (f.session.enroll f.command o).registry = f.session.registry := by
    unfold Session.enroll
    cases f.command.option <;> rfl
  rw [he]
  cases hoption : f.command.option with
  | none =>
    -- nothing is pending for a command without a trader
    have hnone : (f.session.enroll f.command o).pending.find? id = none := by
      simp only [Session.enroll, hoption]
      exact h.unassisted hoption
    have hgone : ∀ s, ({ f with session := f.session.enroll f.command o, stage := .enrolled o } : Filing).copy? id ≠
        some s := by
      intro s
      rw [hcopy, hnone]
      simp
    exact ⟨fun _ => hnone, fun s hs => absurd hs (hgone s), fun s hs => absurd hs (hgone s),
      fun s hs => absurd hs (hgone s)⟩
  | some option =>
    have hsame : ({ f with session := f.session.enroll f.command o, stage := .enrolled o } : Filing).copy? id =
        f.copy? id := by
      rw [hcopy]
      simp only [Session.enroll, hoption, Table.find?_insert]
      by_cases hid : o.id = id
      · rw [if_pos hid.symm, copy?_of_recorded hrecorded hid]
        rfl
      · rw [if_neg (Ne.symm hid), copy?_of_pending]
        rw [hrecorded]
        rintro o' ho'
        cases ho'
        exact hid
    refine ⟨fun hn => ?_, fun s hs => ?_, fun s hs => h.named s (hsame ▸ hs), fun s hs => ?_⟩
    · exact absurd (hoption.symm.trans hn) (by simp)
    · rw [hregistry]
      exact h.given s (hsame ▸ hs)
    · rw [hregistry]
      exact h.tracked s (hsame ▸ hs)

theorem Account.announced (h : f.Account id missed) (henrolled : f.stage = .enrolled o) :
    (f.turn .announce).Account id missed := by
  have he : f.turn .announce = { f with session := f.session.send (.order o), stage := .idle } := by
    simp only [turn, henrolled]
  rw [he]
  refine h.frame rfl rfl ?_ (List.prefix_refl _) rfl Iff.rfl
  rw [copy?_of_pending (by simp), copy?_of_pending (by simp [henrolled])]
  rfl

theorem registry_status_turn (f : Filing) (now : UInt64) (u : StatusUpdate) :
    (f.turn (.status now u)).session.registry = (f.session.registry.merge now u).1 := Session.registry_status ..

theorem Account.unheard (h : f.Account id missed) {now : UInt64} {u : StatusUpdate}
    (hpending : (f.session.status now u).pending.find? id = f.session.pending.find? id)
    (hstatus : (f.session.registry.merge now u).1.status? id = f.session.registry.status? id)
    (hnot : ¬ f.Changes id (.status now u)) :
    (f.turn (.status now u)).Account id (missed ∧ ¬ f.Changes id (.status now u) ∨
      f.Changes id (.status now u) ∧ f.InGap id (.status now u)) := by
  refine h.frame rfl hpending (copy?_congr rfl hpending) ?_ ?_ (missed_of_not_changes hnot)
  · simp only [registry_status_turn, Registry.given_merge, List.prefix_refl]
  · rw [registry_status_turn, hstatus]

theorem Account.updated (h : f.Account id missed) (hk : f.session.registry.Keyed) (now : UInt64) (u : StatusUpdate) :
    (f.turn (.status now u)).Account id (missed ∧ ¬ f.Changes id (.status now u) ∨
      f.Changes id (.status now u) ∧ f.InGap id (.status now u)) := by
  rcases Session.status_cases f.session now u with ⟨hm, he⟩ | ⟨o', hm, he⟩
  · refine h.unheard (by rw [he]; rfl) (Registry.status?_of_merge_none hm id) ?_
    rintro ⟨-, hsome⟩
    rw [hm] at hsome
    cases hsome
  · obtain ⟨before, hbefore, hlive, hrank, hafter⟩ := Registry.rank_lt_of_merge hm
    obtain ⟨o, ho, rfl, hs, hnamed, -⟩ := Registry.of_merge_some hm
    have hoid : (o.merged now u).id = u.orderId := (Order.merged_id ..).trans (hk _ _ ho)
    have hpending : (f.session.status now u).pending.find? id =
        if id = u.orderId then (f.session.pending.find? id).map (Session.follow now (o.merged now u))
        else f.session.pending.find? id := by
      rw [he, ← hoid]
      exact Table.find?_modify ..
    by_cases hid : id = u.orderId
    · subst hid
      rw [if_pos rfl] at hpending
      have hchanges : f.Changes u.orderId (.status now u) := ⟨rfl, by rw [hm]; rfl⟩
      have hgiven : (f.turn (.status now u)).session.registry.given = f.session.registry.given := by
        rw [registry_status_turn, Registry.given_merge]
      have hunassisted : f.command.option = none → (f.session.status now u).pending.find? u.orderId = none := by
        intro hn
        rw [hpending, h.unassisted hn]
        rfl
      by_cases hgap : f.InGap u.orderId (.status now u)
      · -- the copy in hand is left behind
        obtain ⟨-, -, held, -, hrecorded, hheld⟩ := id hgap
        have hcopy : f.copy? u.orderId = some held.status := copy?_of_recorded hrecorded hheld
        have hcopy' : (f.turn (.status now u)).copy? u.orderId = some held.status := copy?_of_recorded hrecorded hheld
        refine ⟨hunassisted, fun s hs' => ?_, fun s hs' => ?_, fun s hs' => ?_⟩
        all_goals rw [hcopy', ← hcopy] at hs'
        · rw [hgiven]
          exact h.given s hs'
        · exact h.named s hs'
        · obtain ⟨st, hst, heq, hlt⟩ := h.tracked s hs'
          cases hst.symm.trans hbefore
          refine ⟨u.status, by rw [registry_status_turn]; exact hafter, fun hn => ?_, fun _ => ?_⟩
          · exact absurd (Or.inr ⟨hchanges, hgap⟩) hn
          · by_cases hmissed : missed
            · exact Nat.lt_trans (hlt hmissed) hrank
            · rw [← heq hmissed]
              exact hrank
      · -- the pending copy follows
        have hcopy' : (f.turn (.status now u)).copy? u.orderId =
            (f.session.pending.find? u.orderId).map fun _ => u.status := by
          rw [copy?_of_pending]
          · change ((f.session.status now u).pending.find? u.orderId).map _ = _
            rw [hpending, Option.map_map]
            congr 1
            funext target
            exact hs
          · intro held hrecorded hheld
            exact hgap ⟨now, u, held, rfl, hrecorded, hheld⟩
        have hcopy : ∀ s, (f.turn (.status now u)).copy? u.orderId = some s →
            s = u.status ∧ ∃ s₀, f.copy? u.orderId = some s₀ := by
          intro s hs'
          rw [hcopy'] at hs'
          obtain ⟨target, htarget, rfl⟩ := Option.map_eq_some_iff.mp hs'
          refine ⟨rfl, target.order.status, ?_⟩
          rw [copy?_of_pending, htarget]
          · rfl
          · intro held hrecorded hheld
            exact hgap ⟨now, u, held, rfl, hrecorded, hheld⟩
        refine ⟨hunassisted, fun s hs' => ?_, fun s hs' => ?_, fun s hs' => ?_⟩
        all_goals obtain ⟨rfl, s₀, hs₀⟩ := hcopy s hs'
        · rw [hgiven]
          exact h.given s₀ hs₀
        · exact hnamed
        · refine ⟨u.status, by rw [registry_status_turn]; exact hafter, fun _ => rfl, fun hmissed => ?_⟩
          simp [hchanges, hgap] at hmissed
    · rw [if_neg hid] at hpending
      refine h.unheard hpending ?_ fun hc => hid hc.1.symm
      rw [Registry.status?_merge, if_neg hid]

theorem Account.step (h : f.Account id missed) (hk : f.session.registry.Keyed) (t : Turn) :
    (f.turn t).Account id (missed ∧ ¬ f.Changes id t ∨ f.Changes id t ∧ f.InGap id t) := by
  have hkept : ∀ {t : Turn}, ¬ f.Changes id t → (f.turn t).Account id missed →
      (f.turn t).Account id (missed ∧ ¬ f.Changes id t ∨ f.Changes id t ∧ f.InGap id t) := by
    intro t hnot h'
    rwa [missed_of_not_changes hnot]
  cases t with
  | submit now ticket =>
    cases hstage : f.stage with
    | idle => exact h.submitted now ticket hstage
    | recorded o | enrolled o =>
      refine hkept (by simp [Changes, hstage]) ?_
      simpa only [turn, hstage] using h
  | enroll =>
    refine hkept (fun hc => hc) ?_
    cases hstage : f.stage with
    | recorded o => exact h.enrolled hstage
    | idle | enrolled o => simpa only [turn, hstage] using h
  | announce =>
    refine hkept (fun hc => hc) ?_
    cases hstage : f.stage with
    | enrolled o => exact h.announced hstage
    | idle | recorded o => simpa only [turn, hstage] using h
  | status now u => exact h.updated hk now u

theorem keyed_turn (hk : f.session.registry.Keyed) (t : Turn) : (f.turn t).session.registry.Keyed := by
  cases t with
  | submit now ticket =>
    cases hstage : f.stage with
    | idle =>
      have hplaced := hk.place now (Session.unitOrder f.command ticket.group) ticket.answer
      rcases turn_submit hstage now ticket with ⟨-, out, he⟩ | ⟨reply, -, he⟩
      · rw [he]
        exact hplaced
      · rw [he]
        exact hplaced
    | recorded o | enrolled o => simpa only [turn, hstage] using hk
  | enroll =>
    cases hstage : f.stage with
    | recorded o =>
      simp only [turn, hstage, Session.enroll]
      cases f.command.option <;> exact hk
    | idle | enrolled o => simpa only [turn, hstage] using hk
  | announce =>
    simp only [turn]
    split <;> exact hk
  | status now u =>
    rw [registry_status_turn]
    exact hk.merge now u

theorem keyed_run (hk : f.session.registry.Keyed) (turns : List Turn) : (f.run turns).session.registry.Keyed := by
  induction turns generalizing f with
  | nil => exact hk
  | cons t turns ih => exact ih (keyed_turn hk t)

theorem account_run (hk : f.session.registry.Keyed) (hempty : ∀ id, f.copy? id = none)
    (hpending : ∀ id, f.session.pending.find? id = none) (id : String) (turns : List Turn) :
    (f.run turns).Account id (f.Missed id turns) := by
  induction turns using List.reverseRecOn with
  | nil =>
    refine ⟨fun _ => hpending id, fun s hs => ?_, fun s hs => ?_, fun s hs => ?_⟩
    all_goals cases (hempty id).symm.trans hs
  | append_singleton turns t ih =>
    rw [run_snoc, missed_snoc]
    exact ih.step (keyed_run hk turns) t

end

end Filing

namespace Session

/-- A pending target whose order has ended, or is gone: no update changes the
target any more. -/
structure Stuck (s : Session) (id : String) (target : AssistTarget) : Prop where
  keyed : s.registry.Keyed
  pending : s.pending.find? id = some target
  live : target.order.status.isCancellable
  given : id ∈ s.registry.given
  ended : ∀ st, s.registry.status? id = some st → st.isTerminal

section
variable {s s' : Session} {id : String} {target : AssistTarget} {st : Step}

/-! ## Targets left behind -/

theorem keyed_placeUnits (s : Session) (now : UInt64) (c : Command) (tickets : List Ticket) (h : s.registry.Keyed) :
    (s.placeUnits now c tickets).1.registry.Keyed := by
  induction tickets generalizing s with
  | nil => exact h
  | cons ticket tickets ih =>
    have hf := filed_placeUnit s now c ticket
    refine ih (s.placeUnit now c ticket).1 ?_
    rw [hf.registry_eq]
    exact hf.grown.keyed h

theorem keyed_step (h : s.registry.Keyed) (st : Step) : (s.step st).registry.Keyed := by
  cases st with
  | text now t ticket =>
    change (s.text now t ticket).registry.Keyed
    rcases text_cases s now t ticket with ⟨f, he⟩ | ⟨c, tickets, -, he⟩
    · rw [he]
      exact h
    · rw [he]
      exact keyed_placeUnits s now c tickets h
  | status now u =>
    change (s.status now u).registry.Keyed
    rw [registry_status]
    exact h.merge now u
  | tick t => exact h
  | prune => exact h
  | promote =>
    change s.promote.registry.Keyed
    rw [promote, registry_startAll]
    exact h
  | supervise now answer =>
    change (s.supervise now answer).registry.Keyed
    rw [registry_supervise]
    exact h.sweep now answer
  | release primary =>
    change (s.release primary).1.registry.Keyed
    rw [registry_release]
    exact h
  | openRelay => exact h
  | relay inbox =>
    change (s.relay inbox).registry.Keyed
    rw [registry_relay]
    exact h
  | traderTick inbox now answer =>
    change (s.traderTick inbox now answer).registry.Keyed
    rcases traderTick_moves s inbox now answer with he | ⟨w, -, -, he⟩ | ⟨w, t, ticks, -, -, he⟩
    · rw [he]
      exact h
    · rw [he]
      exact h
    · rw [he, registry_settleWorker]
      exact (Trader.grown_onTick w.trader s.floor now t answer).keyed h
  | traderEvent inbox =>
    change (s.traderEvent inbox).registry.Keyed
    rw [registry_traderEvent]
    exact h

theorem keyed_run (h : s.registry.Keyed) (steps : List Step) : (s.run steps).registry.Keyed := by
  induction steps generalizing s with
  | nil => exact h
  | cons st steps ih => exact ih (keyed_step h st)

theorem Stuck.size_ne_zero (h : s.Stuck id target) : s.pending.size ≠ 0 := by
  intro hsize
  have hnone := Table.find?_eq_none_of_size hsize id
  rw [h.pending] at hnone
  cases hnone

theorem Stuck.refuses (h : s.Stuck id target) (now : UInt64) (c : Command) :
    ((s.admission now).refusal? c).isSome := by
  cases hr : (s.admission now).refusal? c with
  | some r => rfl
  | none => exact absurd (idle_of_refusal?_none hr).2.2 h.size_ne_zero

theorem Stuck.frame (h : s.Stuck id target) (hk : s'.registry.Keyed)
    (hpending : s'.pending.find? id = s.pending.find? id) (hgiven : s.registry.given <+: s'.registry.given)
    (hstatus : s'.registry.status? id = s.registry.status? id ∨ s'.registry.status? id = none) :
    s'.Stuck id target where
  keyed := hk
  pending := hpending.trans h.pending
  live := h.live
  given := hgiven.subset h.given
  ended st hst := by
    rcases hstatus with he | he
    · exact h.ended st (he ▸ hst)
    · rw [he] at hst
      cases hst

theorem Stuck.step (h : s.Stuck id target) (hn : (s.step st).registry.given.Nodup) : (s.step st).Stuck id target := by
  have hframe (hp : (s.step st).pending.find? id = s.pending.find? id)
      (hs : (s.step st).registry.status? id = s.registry.status? id ∨ (s.step st).registry.status? id = none) :
      (s.step st).Stuck id target := h.frame (keyed_step h.keyed st) hp (given_step s st) hs
  cases st with
  | text now t ticket =>
    rcases text_cases s now t ticket with ⟨f, he⟩ | ⟨c, tickets, hadmit, -⟩
    · have he' : s.step (.text now t ticket) = s.push f := he
      exact hframe (by rw [he']; rfl) (Or.inl (by rw [he']; rfl))
    · exact absurd (idle_of_refusal?_none hadmit).2.2 h.size_ne_zero
  | status now u =>
    have hreg : (s.step (.status now u)).registry = (s.registry.merge now u).1 := registry_status s now u
    rcases status_cases s now u with ⟨hm, he⟩ | ⟨o', hm, he⟩
    · have he' : s.step (.status now u) = s.setRegistry (s.registry.merge now u).1 := he
      refine hframe (by rw [he']; rfl) (Or.inl ?_)
      rw [hreg, Registry.status?_of_merge_none hm]
    · obtain ⟨before, hbefore, hlive, -⟩ := Registry.rank_lt_of_merge hm
      obtain ⟨o, ho, rfl, -⟩ := Registry.of_merge_some hm
      have hoid : (o.merged now u).id = u.orderId := (Order.merged_id ..).trans (h.keyed _ _ ho)
      have hid : id ≠ u.orderId := by
        rintro rfl
        exact hlive (h.ended before hbefore)
      refine hframe ?_ (Or.inl ?_)
      · change (s.status now u).pending.find? id = _
        rw [he]
        exact (Table.find?_modify ..).trans (if_neg (hoid.symm ▸ hid))
      · rw [hreg, Registry.status?_merge, if_neg hid]
  | tick t => exact hframe rfl (Or.inl rfl)
  | prune => exact hframe rfl (Or.inl rfl)
  | promote =>
    refine hframe ?_ (Or.inl ?_)
    · change s.promote.pending.find? id = _
      rw [pending_promote, Table.find?_filter, h.pending, Option.filter_some, if_pos h.live]
    · exact congrArg (·.status? id) (registry_startAll ..)
  | supervise now answer =>
    have hreg : (s.step (.supervise now answer)).registry = (s.registry.sweep now answer).1 :=
      registry_supervise s now answer
    refine hframe ?_ ?_
    · change (s.supervise now answer).pending.find? id = _
      rw [supervise_eq]
      rfl
    · rw [hreg, Registry.status?_sweep]
      cases hst : s.registry.status? id with
      | none => exact Or.inl rfl
      | some st =>
        right
        have hover : ¬ st.isCancellable := fun hc => Status.not_isTerminal_of_isCancellable hc (h.ended st hst)
        rw [Option.filter_some, if_neg hover]
  | release primary =>
    obtain ⟨queues, workers, out, he, -⟩ := s.release_parts primary
    have he' : s.step (.release primary) = { s with queues, workers, out := s.out ++ out } := he
    exact hframe (by rw [he']) (Or.inl (by rw [he']; rfl))
  | openRelay => exact hframe rfl (Or.inl rfl)
  | relay inbox =>
    refine hframe ?_ (Or.inl (congrArg (·.status? id) (registry_relay s inbox)))
    change (s.relay inbox).pending.find? id = _
    rcases relay_cases s inbox with ⟨he, -⟩ | ⟨bus, e, -, -, he⟩
    · rw [he]
    · rw [he, (event_keeps _ e).2.2.1]
  | traderTick inbox now answer =>
    change (s.traderTick inbox now answer).registry.given.Nodup at hn
    rcases traderTick_moves s inbox now answer with he | ⟨w, -, -, he⟩ | ⟨w, t, ticks, -, -, he⟩
    · have he' : s.step (.traderTick inbox now answer) = s := he
      exact hframe (by rw [he']) (Or.inl (by rw [he']))
    · have he' : s.step (.traderTick inbox now answer) = s.retire inbox := he
      exact hframe (by rw [he']; rfl) (Or.inl (by rw [he']; rfl))
    · have hgrown := Trader.grown_onTick w.trader s.floor now t answer
      refine hframe ?_ (Or.inl ?_)
      · change (s.traderTick inbox now answer).pending.find? id = _
        rw [he, pending_settleWorker]
      · change (s.traderTick inbox now answer).registry.status? id = _
        rw [he, registry_settleWorker] at hn ⊢
        -- the id was given before, so the closing order has another
        refine hgrown.status?_of_ne fun o ho hid => ?_
        exact hgrown.fresh hn o ho (hid ▸ h.given)
  | traderEvent inbox =>
    refine hframe ?_ (Or.inl (congrArg (·.status? id) (registry_traderEvent s inbox)))
    change (s.traderEvent inbox).pending.find? id = _
    rcases traderEvent_cases s inbox with he | ⟨w, -, bus, e, -, he⟩
    · rw [he]
    · rw [he, pending_settleWorker]

theorem Stuck.run (h : s.Stuck id target) {steps : List Step} (hn : (s.run steps).registry.given.Nodup) :
    (s.run steps).Stuck id target := by
  induction steps generalizing s with
  | nil => exact h
  | cons st steps ih => exact ih (h.step ((given_run (s.step st) steps).sublist.nodup hn)) hn

end

end Session

namespace Filing

/-- A session anything may have happened to takes a command. -/
structure Admitted (f : Filing) : Prop where
  reached : ∃ connId settings hours zone steps, f.session = (Session.start connId settings hours zone).run steps
  admitted : ∃ now, (f.session.admission now).refusal? f.command = none
  idle : f.stage = .idle

section
variable {f : Filing} {id : String} {target : AssistTarget} {turns : List Turn}

theorem Admitted.keyed (h : f.Admitted) : f.session.registry.Keyed := by
  obtain ⟨connId, settings, hours, zone, steps, he⟩ := h.reached
  rw [he]
  exact Session.keyed_run (Registry.keyed_empty _) steps

theorem Admitted.account (h : f.Admitted) (id : String) (turns : List Turn) :
    (f.run turns).Account id (f.Missed id turns) := by
  obtain ⟨now, hadmit⟩ := h.admitted
  have hpending := Table.find?_eq_none_of_size (Session.idle_of_refusal?_none hadmit).2.2
  refine account_run h.keyed (fun id => ?_) hpending id turns
  rw [copy?_of_pending (by simp [h.idle]), hpending id]
  rfl

theorem mem_ready (ht : f.session.pending.find? id = some target) :
    target ∈ f.session.ready ↔ target.order.status = .filled := by
  rw [Session.ready, List.mem_filter, decide_eq_true_eq, and_iff_right]
  exact List.mem_map_of_mem (Table.mem_entries_iff.mpr ht)

/-- **What a race between a command and the updates leaves.** Once the units of
a command are filed, a pending target stands as the registry does, and is started
by the next housekeeping if its order is filled, exactly if its last change was
not heard in its gap. If the order has ended there, the target stays pending
whatever happens, and the session takes no command any more. An update heard
before its order was recorded is lost altogether. -/
theorem pending_agrees_iff (h : f.Admitted) (hdone : (f.run turns).stage = .idle) :
    (∀ id target, (f.run turns).session.pending.find? id = some target →
      ∃ st, (f.run turns).session.registry.status? id = some st ∧
        (st = target.order.status ↔ ¬ f.Missed id turns) ∧
        (st = .filled → (target ∈ (f.run turns).session.ready ↔ ¬ f.Missed id turns)) ∧
        (f.Missed id turns → st.isTerminal → ∀ steps, ((f.run turns).session.run steps).registry.given.Nodup →
          ((f.run turns).session.run steps).pending.find? id = some target ∧
          ∀ now c, ((((f.run turns).session.run steps).admission now).refusal? c).isSome)) ∧
    ∀ now u, (f.run turns).session.registry.lookup u.orderId = none →
      (f.run turns).turn (.status now u) = f.run turns := by
  refine ⟨fun id target ht => ?_, fun now u hnone => ?_⟩
  · have haccount := h.account id turns
    have hcopy : (f.run turns).copy? id = some target.order.status := by
      rw [copy?_of_pending (by simp [hdone]), ht]
      rfl
    obtain ⟨st, hst, hsame, hbehind⟩ := haccount.tracked _ hcopy
    have hagrees : st = target.order.status ↔ ¬ f.Missed id turns := by
      refine ⟨fun he hmissed => ?_, hsame⟩
      have hlt := hbehind hmissed
      rw [he] at hlt
      exact Nat.lt_irrefl _ hlt
    refine ⟨st, hst, hagrees, fun hfilled => ?_, fun hmissed hover steps hn => ?_⟩
    · rw [mem_ready ht, ← hagrees, hfilled, eq_comm]
    · have hlive : target.order.status.isCancellable := by
        rcases Status.isCancellable_or_isTerminal (haccount.named _ hcopy) with hlive | hend
        · exact hlive
        · have hlt := hbehind hmissed
          have hrank := Status.isTerminal_iff_rank.mp hend
          have := st.rank_le_five
          omega
      have hstuck : (f.run turns).session.Stuck id target := by
        refine ⟨keyed_run h.keyed turns, ht, hlive, haccount.given _ hcopy, fun st' hst' => ?_⟩
        cases hst.symm.trans hst'
        exact hover
      exact ⟨(hstuck.run hn).pending, fun now c => (hstuck.run hn).refuses now c⟩
  · have hmerge : (f.run turns).session.registry.merge now u = ((f.run turns).session.registry, none) := by
      rw [Registry.merge, hnone]
    change { f.run turns with session := (f.run turns).session.status now u } = f.run turns
    rw [Session.status, hmerge]
    rfl

end

def filledInGap : List Turn :=
  [.submit 1000 ⟨"g1", .reply { orderId := "p1", status := .submitted }⟩, .status 1500 ⟨"p1", .filled, 0, none⟩,
    .enroll, .announce]

def assistedPurchase : Filing where
  command :=
    { code := "MXFL1", action := .buy, price := 100, quantity := 1,
      option := some { kind := .byTimePeriod, periodSecs := 5 } }
  session := Session.start "c1" {} .alwaysOpen

theorem status?_filledInGap :
    (assistedPurchase.run filledInGap).session.registry.status? "p1" = some .filled := by decide +kernel

theorem pending_filledInGap :
    ((assistedPurchase.run filledInGap).session.pending.find? "p1").map (·.order.status) = some .submitted := by
  decide +kernel

theorem pending_agrees_iff_filledInGap :
    assistedPurchase.Missed "p1" filledInGap ∧ ∃ target, target.order.status = .submitted ∧
      ((assistedPurchase.run filledInGap).session.run [.promote, .supervise 9000 fun _ => .failure "down", .prune,
        .promote]).pending.find? "p1" = some target := by
  have hadmit : (assistedPurchase.session.admission 1000).refusal? assistedPurchase.command = none := by
    decide +kernel
  have hadmitted : assistedPurchase.Admitted := ⟨⟨"c1", {}, .alwaysOpen, .utc, [], rfl⟩, ⟨1000, hadmit⟩, rfl⟩
  obtain ⟨target, ht, hs⟩ := Option.map_eq_some_iff.mp pending_filledInGap
  have hdone : (assistedPurchase.run filledInGap).stage = .idle := rfl
  obtain ⟨st, hst, hagrees, -, hstuck⟩ := (pending_agrees_iff hadmitted hdone).1 "p1" target ht
  have hfilled : st = .filled := Option.some.inj (hst.symm.trans status?_filledInGap)
  have hmissed : assistedPurchase.Missed "p1" filledInGap := by
    by_contra hnot
    have he := hagrees.mpr hnot
    rw [hfilled, hs] at he
    cases he
  exact ⟨hmissed, target, hs, (hstuck hmissed (by rw [hfilled]; rfl) _ (by decide +kernel)).1⟩

/-- The order is filled, its target is not started and the next command is
refused. -/
theorem fill_missed_filledInGap :
    (assistedPurchase.run filledInGap).session.registry.status? "p1" = some .filled ∧
    ((assistedPurchase.run filledInGap).session.pending.find? "p1").map (·.order.status) = some .submitted ∧
    (assistedPurchase.run filledInGap).session.promote.workers.length = 0 ∧
    ((assistedPurchase.run filledInGap).session.promote.admission 2000).refusal? assistedPurchase.command =
      some .assistBusy := by
  decide +kernel

end Filing

end FuturesDesk
