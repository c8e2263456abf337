import Calls.Library.Comparators
import Calls.Webapp.Reducers

/-! The order in which the sessions of a call are shown. -/

set_option autoImplicit false

namespace Calls.Webapp

namespace UserSessionState

/-- The time at which the hand was raised, as far as that is true: zero says that it is not raised. -/
def hand (state : UserSessionState) : Option Int := state.raisedHand.filter (· ≠ 0)

def isUnmuted (state : UserSessionState) : Bool := state.unmuted.getD false

end UserSessionState

/-- The sign of a difference of two numbers is that of their exact difference, however it is rounded. -/
def compareReactions (considerReaction : Bool) : Comparator UserSessionState := fun stateA stateB =>
  if considerReaction then
    match stateA.reaction, stateB.reaction with
    | some _, none => -1
    | none, some _ => 1
    | some reactionA, some reactionB => reactionA.timestamp - reactionB.timestamp
    | none, none => 0
  else 0

def stateSortSessions (presenterID : String) (considerReaction : Bool := false) : Comparator UserSessionState :=
  fun stateA stateB =>
  if stateA.sessionID = some presenterID then -1
  else if stateB.sessionID = some presenterID then 1
  else
    match stateA.hand, stateB.hand with
    | some _, none => -1
    | none, some _ => 1
    | some handA, some handB => handA - handB
    | none, none =>
      match stateA.isUnmuted, stateB.isUnmuted with
      | true, false => -1
      | false, true => 1
      | _, _ => compareReactions considerReaction stateA stateB

/-! ### Standings -/

inductive SessionGroup where
  | presenter
  | raisedHand
  | unmuted
  | muted
  deriving DecidableEq

def SessionGroup.place : SessionGroup → Nat
  | presenter => 0
  | raisedHand => 1
  | unmuted => 2
  | muted => 3

theorem SessionGroup.place_injective {g h : SessionGroup} (same : g.place = h.place) : g = h := by
  cases g <;> cases h <;> first | rfl | exact absurd same (by decide)

namespace UserSessionState

variable (presenterID : String) (considerReaction : Bool) (state : UserSessionState)

def group : SessionGroup :=
  if state.sessionID = some presenterID then .presenter
  else if state.hand.isSome then .raisedHand
  else if state.isUnmuted then .unmuted
  else .muted

/-- Those with a reaction are before those without one, and in the order of its time. -/
def reactionStanding : Nat ×ₗ Int :=
  match considerReaction, state.reaction with
  | true, some reaction => toLex (0, reaction.timestamp)
  | _, _ => toLex (1, 0)

/-- Where a session stands among those of its group. -/
def standingIn : SessionGroup → Nat ×ₗ Int
  | .presenter => toLex (0, 0)
  | .raisedHand => toLex (0, state.hand.getD 0)
  | .unmuted | .muted => state.reactionStanding considerReaction

def standing : Nat ×ₗ Nat ×ₗ Int :=
  toLex ((state.group presenterID).place, state.standingIn considerReaction (state.group presenterID))

/-- What the group of a session says about it. -/
inductive Grouped : SessionGroup → Prop where
  | presenter : state.sessionID = some presenterID → Grouped .presenter
  | raisedHand {time : Int} : state.sessionID ≠ some presenterID → state.hand = some time → Grouped .raisedHand
  | unmuted : state.sessionID ≠ some presenterID → state.hand = none → state.isUnmuted = true → Grouped .unmuted
  | muted : state.sessionID ≠ some presenterID → state.hand = none → state.isUnmuted = false → Grouped .muted

theorem grouped : state.Grouped presenterID (state.group presenterID) := by
  unfold group
  by_cases presents : state.sessionID = some presenterID
  · rw [if_pos presents]
    exact .presenter presents
  · rw [if_neg presents]
    cases raised : state.hand with
    | some time => exact .raisedHand presents raised
    | none =>
      cases unmuted : state.isUnmuted with
      | true => exact .unmuted presents raised unmuted
      | false => exact .muted presents raised unmuted

variable {presenterID considerReaction state}

theorem group_eq_presenter_iff : state.group presenterID = .presenter ↔ state.sessionID = some presenterID := by
  constructor
  · intro presents
    cases presents ▸ state.grouped presenterID with
    | presenter presents => exact presents
  · exact fun presents => if_pos presents

end UserSessionState

section
variable {presenterID : String} {considerReaction : Bool} {a b : UserSessionState} {g h : SessionGroup}

open UserSessionState (Grouped standing standingIn reactionStanding group_eq_presenter_iff)
open Comparator (SignOf)

theorem compareReactions_signOf :
    SignOf (compareReactions considerReaction a b) (a.reactionStanding considerReaction)
      (b.reactionStanding considerReaction) := by
  unfold compareReactions reactionStanding
  cases considerReaction with
  | false => exact .refl
  | true =>
    cases a.reaction with
    | none =>
      cases b.reaction with
      | none => exact .refl
      | some reaction => exact .lex_of_gt (by decide) Int.one_pos
    | some reaction =>
      cases b.reaction with
      | none => exact .lex_of_lt (by decide) (Int.negSucc_lt_zero 0)
      | some other => exact (SignOf.sub _ _).lex

/-! ### Sessions of two groups -/

theorem stateSortSessions_of_earlier (groupedA : a.Grouped presenterID g) (groupedB : b.Grouped presenterID h)
    (earlier : g.place < h.place) : stateSortSessions presenterID considerReaction a b = -1 := by
  unfold stateSortSessions
  cases groupedA with
  | presenter presents => exact if_pos presents
  | raisedHand other raised =>
    cases groupedB with
    | presenter | raisedHand => exact absurd earlier (by decide)
    | unmuted otherB lowered | muted otherB lowered => simp [other, otherB, raised, lowered]
  | unmuted other lowered unmuted =>
    cases groupedB with
    | presenter | raisedHand | unmuted => exact absurd earlier (by decide)
    | muted otherB loweredB muted => simp [other, otherB, lowered, loweredB, unmuted, muted]
  | muted => cases groupedB <;> exact absurd earlier (by decide)

theorem stateSortSessions_of_later (groupedA : a.Grouped presenterID g) (groupedB : b.Grouped presenterID h)
    (later : h.place < g.place) : stateSortSessions presenterID considerReaction a b = 1 := by
  unfold stateSortSessions
  cases groupedA with
  | presenter => cases groupedB <;> exact absurd later (by decide)
  | raisedHand other raised =>
    cases groupedB with
    | presenter presents => rw [if_neg other, if_pos presents]
    | raisedHand | unmuted | muted => exact absurd later (by decide)
  | unmuted other lowered unmuted =>
    cases groupedB with
    | presenter presents => rw [if_neg other, if_pos presents]
    | raisedHand otherB raised => simp [other, otherB, lowered, raised]
    | unmuted | muted => exact absurd later (by decide)
  | muted other lowered muted =>
    cases groupedB with
    | presenter presents => rw [if_neg other, if_pos presents]
    | raisedHand otherB raised => simp [other, otherB, lowered, raised]
    | unmuted otherB loweredB unmuted => simp [other, otherB, lowered, loweredB, muted, unmuted]
    | muted => exact absurd later (by decide)

/-! ### Sessions of one group -/

theorem stateSortSessions_of_voice (otherA : a.sessionID ≠ some presenterID) (otherB : b.sessionID ≠ some presenterID)
    (loweredA : a.hand = none) (loweredB : b.hand = none) (same : a.isUnmuted = b.isUnmuted) :
    stateSortSessions presenterID considerReaction a b = compareReactions considerReaction a b := by
  unfold stateSortSessions
  rw [if_neg otherA, if_neg otherB, loweredA, loweredB, same]
  cases b.isUnmuted <;> rfl

theorem stateSortSessions_of_same (groupedA : a.Grouped presenterID g) (groupedB : b.Grouped presenterID g)
    (other : g ≠ .presenter) :
    SignOf (stateSortSessions presenterID considerReaction a b) (a.standingIn considerReaction g)
      (b.standingIn considerReaction g) := by
  cases groupedA with
  | presenter => exact absurd rfl other
  | @raisedHand timeA otherA raisedA =>
    cases groupedB with
    | @raisedHand timeB otherB raisedB =>
      have difference : stateSortSessions presenterID considerReaction a b = timeA - timeB := by
        simp [stateSortSessions, otherA, otherB, raisedA, raisedB]
      unfold standingIn
      rw [difference, raisedA, raisedB]
      exact (SignOf.sub timeA timeB).lex
  | unmuted otherA loweredA unmutedA =>
    cases groupedB with
    | unmuted otherB loweredB unmutedB =>
      rw [stateSortSessions_of_voice otherA otherB loweredA loweredB (unmutedA.trans unmutedB.symm)]
      exact compareReactions_signOf
  | muted otherA loweredA mutedA =>
    cases groupedB with
    | muted otherB loweredB mutedB =>
      rw [stateSortSessions_of_voice otherA otherB loweredA loweredB (mutedA.trans mutedB.symm)]
      exact compareReactions_signOf

/-- Two sessions, of which not both are the presenter's, are in the order of their standings. -/
theorem stateSortSessions_signOf (notBoth : a.group presenterID = .presenter → b.group presenterID ≠ .presenter) :
    SignOf (stateSortSessions presenterID considerReaction a b) (a.standing presenterID considerReaction)
      (b.standing presenterID considerReaction) := by
  rcases Nat.lt_trichotomy (a.group presenterID).place (b.group presenterID).place with earlier | same | later
  · exact .lex_of_lt earlier (by rw [stateSortSessions_of_earlier (a.grouped _) (b.grouped _) earlier]; decide)
  · have same := SessionGroup.place_injective same
    have other : a.group presenterID ≠ .presenter := fun presents => notBoth presents (same ▸ presents)
    unfold standing
    rw [← same]
    exact (stateSortSessions_of_same (a.grouped _) (same ▸ b.grouped _) other).lex
  · exact .lex_of_gt later (by rw [stateSortSessions_of_later (a.grouped _) (b.grouped _) later]; decide)

/-- A presenter goes before itself, and so its session must be apart from the other one. -/
theorem stateSortSessions_follows (presenterID : String) (considerReaction : Bool) :
    (stateSortSessions presenterID considerReaction).Follows (·.standing presenterID considerReaction)
      fun a b => a.sessionID ≠ b.sessionID where
  signOf a b distinct := by
    refine stateSortSessions_signOf fun presentsA presentsB => distinct ?_
    rw [group_eq_presenter_iff.mp presentsA, group_eq_presenter_iff.mp presentsB]
  behind a b := by
    by_cases both : a.group presenterID = .presenter ∧ b.group presenterID = .presenter
    · obtain ⟨presentsA, presentsB⟩ := both
      have before : stateSortSessions presenterID considerReaction a b = -1 := if_pos (group_eq_presenter_iff.mp presentsA)
      rw [before]
      unfold standing
      rw [presentsA, presentsB]
      exact iff_of_false (by decide) (lt_irrefl _)
    · exact (stateSortSessions_signOf fun presentsA presentsB => both ⟨presentsA, presentsB⟩).behind

theorem standingIn_le_of_standing_le (groupA : a.group presenterID = g) (groupB : b.group presenterID = g)
    (le : a.standing presenterID considerReaction ≤ b.standing presenterID considerReaction) :
    a.standingIn considerReaction g ≤ b.standingIn considerReaction g := by
  unfold standing at le
  rw [groupA, groupB, Prod.Lex.toLex_le_toLex] at le
  exact (le.resolve_left (lt_irrefl _)).2

end

/-! ### Sorted sessions -/

/-- The presenter first, then the raised hands, then who is unmuted and who is not, each of these in its order. -/
structure Arranged (presenterID : String) (considerReaction : Bool) (sorted : List UserSessionState) : Prop where
  presenter : ∀ state ∈ sorted, state.sessionID = some presenterID → sorted.head? = some state
  groups : sorted = [.presenter, .raisedHand, .unmuted, .muted].flatMap fun g => sorted.filter (·.group presenterID = g)
  hands : (sorted.filter (·.group presenterID = .raisedHand)).Pairwise fun a b =>
    ∀ timeA timeB, a.hand = some timeA → b.hand = some timeB → timeA ≤ timeB
  reactions : considerReaction = true → ∀ g ∈ [SessionGroup.unmuted, .muted],
    (sorted.filter (·.group presenterID = g)).Pairwise fun a b =>
      ∀ reactionB, b.reaction = some reactionB →
        ∃ reactionA, a.reaction = some reactionA ∧ reactionA.timestamp ≤ reactionB.timestamp

section
variable {presenterID : String} {considerReaction : Bool} {sessions sorted : List UserSessionState}

open UserSessionState (standing standingIn reactionStanding group_eq_presenter_iff)

theorem reactions_of_reactionStanding_le {a b : UserSessionState} (le : a.reactionStanding true ≤ b.reactionStanding true)
    {reactionB : Reaction} (reacted : b.reaction = some reactionB) :
    ∃ reactionA, a.reaction = some reactionA ∧ reactionA.timestamp ≤ reactionB.timestamp := by
  unfold reactionStanding at le
  rw [reacted] at le
  cases reaction : a.reaction with
  | none =>
    rw [reaction] at le
    exact absurd le (by simp [Prod.Lex.toLex_le_toLex])
  | some reactionA =>
    rw [reaction, Prod.Lex.toLex_le_toLex] at le
    exact ⟨reactionA, rfl, (le.resolve_left (lt_irrefl _)).2⟩

theorem pairwise_standing (sorts : (stateSortSessions presenterID considerReaction).Sorts sessions sorted) :
    sorted.Pairwise fun a b => a.standing presenterID considerReaction ≤ b.standing presenterID considerReaction :=
  (stateSortSessions_follows presenterID considerReaction).pairwise_key sorts

/-- The sessions of one group are in the order of their standings in it. -/
theorem pairwise_standingIn (sorts : (stateSortSessions presenterID considerReaction).Sorts sessions sorted) (g : SessionGroup) :
    (sorted.filter (·.group presenterID = g)).Pairwise fun a b =>
      a.standingIn considerReaction g ≤ b.standingIn considerReaction g := by
  refine ((pairwise_standing sorts).filter _).imp_of_mem fun {a b} memberA memberB le => ?_
  have groupA := of_decide_eq_true (List.mem_filter.mp memberA).2
  have groupB := of_decide_eq_true (List.mem_filter.mp memberB).2
  exact standingIn_le_of_standing_le groupA groupB le

theorem eq_groups_of_sorts (sorts : (stateSortSessions presenterID considerReaction).Sorts sessions sorted) :
    sorted = [.presenter, .raisedHand, .unmuted, .muted].flatMap fun g => sorted.filter (·.group presenterID = g) := by
  have inOrder : [SessionGroup.presenter, .raisedHand, .unmuted, .muted].Pairwise fun g h => g.place < h.place := by decide
  refine List.eq_flatMap_filter inOrder (fun g => Nat.lt_irrefl g.place) ?_ ?_
  · intro state _
    cases state.group presenterID <;> decide
  · refine (pairwise_standing sorts).imp fun {a b} le later => ?_
    unfold standing at le
    rw [Prod.Lex.toLex_le_toLex] at le
    rcases le with earlier | ⟨same, _⟩
    · exact absurd earlier later.not_gt
    · exact absurd same later.ne'

theorem arranged_of_sorts (distinct : (sessions.map UserSessionState.sessionID).Nodup)
    (sorts : (stateSortSessions presenterID considerReaction).Sorts sessions sorted) :
    Arranged presenterID considerReaction sorted where
  presenter state member presents := by
    have distinct : (sorted.map UserSessionState.sessionID).Nodup := (sorts.perm.map _).nodup_iff.mpr distinct
    have leading : state ∈ sorted.filter (·.group presenterID = .presenter) :=
      List.mem_filter.mpr ⟨member, decide_eq_true (group_eq_presenter_iff.mpr presents)⟩
    cases presenters : sorted.filter (·.group presenterID = .presenter) with
    | nil => exact absurd (presenters ▸ leading) List.not_mem_nil
    | cons first rest =>
      obtain ⟨memberFirst, presentsFirst⟩ := List.mem_filter.mp (presenters.symm ▸ List.mem_cons_self : first ∈ _)
      have sameID : first.sessionID = state.sessionID :=
        (group_eq_presenter_iff.mp (of_decide_eq_true presentsFirst)).trans presents.symm
      have same : first = state := List.inj_on_of_nodup_map distinct memberFirst member sameID
      rw [eq_groups_of_sorts sorts, List.flatMap_cons, presenters, List.cons_append, List.head?_cons, same]
  groups := eq_groups_of_sorts sorts
  hands := by
    refine (pairwise_standingIn sorts .raisedHand).imp fun {a b} le timeA timeB raisedA raisedB => ?_
    unfold standingIn at le
    rw [raisedA, raisedB, Prod.Lex.toLex_le_toLex] at le
    exact (le.resolve_left (lt_irrefl _)).2
  reactions considered g voiced := by
    subst considered
    refine (pairwise_standingIn sorts g).imp fun {a b} le reactionB reacted => reactions_of_reactionStanding_le ?_ reacted
    rcases List.mem_pair.mp voiced with rfl | rfl <;> exact le

/-- Sessions with distinct identifiers are in a strict weak order, and however they are sorted by it, they are arranged. -/
theorem stateSortSessions_arranges (presenterID : String) (considerReaction : Bool) :
    (stateSortSessions presenterID considerReaction).StrictWeakOn (fun a b => a.sessionID ≠ b.sessionID) ∧
    ∀ sessions : List UserSessionState, (sessions.map UserSessionState.sessionID).Nodup →
      (stateSortSessions presenterID considerReaction).Sorts sessions
        ((stateSortSessions presenterID considerReaction).sort sessions) ∧
      ∀ sorted, (stateSortSessions presenterID considerReaction).Sorts sessions sorted →
        Arranged presenterID considerReaction sorted := by
  have follows := stateSortSessions_follows presenterID considerReaction
  exact ⟨follows.strictWeakOn, fun sessions distinct => ⟨follows.sorts sessions, fun _ => arranged_of_sorts distinct⟩⟩

/-- A presenter who is muted goes before two raised hands, and a reaction before a session without one. -/
theorem stateSortSessions_arranges_call :
    Arranged "presenter" true
      [{ sessionID := some "presenter" }, { sessionID := some "early", raisedHand := some 1 },
        { sessionID := some "late", raisedHand := some 2 },
        { sessionID := some "reacted", unmuted := some true, reaction := some ⟨3⟩ },
        { sessionID := some "silent", raisedHand := some 0, unmuted := some true }] :=
  ((stateSortSessions_arranges "presenter" true).2
    [{ sessionID := some "silent", raisedHand := some 0, unmuted := some true },
      { sessionID := some "late", raisedHand := some 2 },
      { sessionID := some "reacted", unmuted := some true, reaction := some ⟨3⟩ }, { sessionID := some "presenter" },
      { sessionID := some "early", raisedHand := some 1 }]
    (by decide)).2 _ ⟨by decide, by decide⟩

end

end Calls.Webapp
