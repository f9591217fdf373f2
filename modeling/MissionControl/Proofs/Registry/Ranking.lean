import Mathlib
import MissionControl.Registry.Handlers
set_option autoImplicit false

/-!
# Ranking the possible handlers

The registry answers "who can handle these channels" by a rule that reads without any sorting
algorithm:

* a client's quality is the match of the request alone, taken as requested, when there are no
  channels (none without a request); otherwise the 64-bit sum of the channels' matches, or `0`
  as soon as one channel does not match (`quality_eq_reference`);
* the candidates are the registered handlers, in discovery order, owned by the given unique name
  when there is one, and of positive quality (`candidates_eq_eligible`);
* the answer is the candidates stably ranked, those that bypass approval first and then by
  higher quality, candidates of equal rank keeping discovery order (`StablyRanked`); with no
  candidate, the request's preferred handler alone when it is registered, whatever its roles or
  owner, and no handler otherwise (`possibleHandlers_eq_reference`).

Exactly one list is the candidates stably ranked (`StablyRanked.unique`), so the rule fixes the
answer. The ranking meets it (`rank_stablyRanked`) because the comparison it sorts by is a strict
weak order whose incomparable candidates are those of equal rank.
-/

namespace MissionControl

namespace Registry

/-! ## Quality -/

/-- The quality of a client with these handler filters, as the rule states it. -/
def referenceQuality (score : MatchFunc) (filters : List Properties) (req : Option Request)
    (channels : List Channel) : Nat :=
  if channels = [] then (req.map fun r => score r.props filters true).getD 0
  else if ∀ ch ∈ channels, score ch.props filters false ≠ 0 then
    (channels.map fun ch => score ch.props filters false).sum % 2 ^ 64
  else 0

/-- The running sum of the channels' matches, from any total: the 64-bit sum of the total and
every match, or `0` once one channel does not match. -/
theorem channelQuality_eq (score : MatchFunc) (filters : List Properties) :
    ∀ (channels : List Channel) (total : Nat),
      channelQuality score filters channels (total % 2 ^ 64) =
        if ∀ ch ∈ channels, score ch.props filters false ≠ 0 then
          (total + (channels.map fun ch => score ch.props filters false).sum) % 2 ^ 64
        else 0
  | [], total => by simp [channelQuality]
  | ch :: rest, total => by
    by_cases unmatched : score ch.props filters false = 0
    case pos => simp [channelQuality, unmatched]
    case neg =>
      -- the wrapped running total is the total of the sums so far, wrapped once
      have wrapped : (total % 2 ^ 64 + score ch.props filters false) % Nat.pow 2 64 =
          (total + score ch.props filters false) % 2 ^ 64 := by
        simp [Nat.pow_eq, Nat.mod_add_mod]
      simp only [channelQuality, beq_iff_eq, unmatched, if_false, wrapped,
        channelQuality_eq score filters rest, List.forall_mem_cons, ne_eq, not_false_eq_true,
        true_and, List.map_cons, List.sum_cons, Nat.add_assoc]

/-- A client's quality is the one of the rule. -/
theorem quality_eq_reference (score : MatchFunc) (filters : List Properties)
    (req : Option Request) (channels : List Channel) :
    quality score filters req channels = referenceQuality score filters req channels := by
  cases channels with
  | nil => cases req <;> simp [quality, referenceQuality]
  | cons ch rest =>
    have start := channelQuality_eq score filters (ch :: rest) 0
    simp only [Nat.zero_mod, Nat.zero_add] at start
    simp [quality, referenceQuality, start]

/-! ## Candidates -/

/-- The filters a client declares for the channels it handles; an absent map matches as an empty
one. -/
def handlingFilters (p : Client.Proxy) : List Properties :=
  (p.handlerFilters.getD []).map (·.getD [])

/-- Whether a registered client can be offered the channels: owned by `unique` when one is
given, a handler, and of positive quality. -/
def eligible (score : MatchFunc) (req : Option Request) (channels : List Channel)
    (unique : String) (p : Client.Proxy) : Bool :=
  (unique.isEmpty || p.uniqueName == unique) && p.isHandler &&
    0 < referenceQuality score (handlingFilters p) req channels

/-- The candidates of the rule: the eligible clients in discovery order, each with whether it
bypasses approval and its quality. -/
def eligibleCandidates (score : MatchFunc) (clients : List Client.Proxy) (req : Option Request)
    (channels : List Channel) (unique : String) : List Candidate :=
  (clients.filter (eligible score req channels unique)).map fun p =>
    { name := p.name, bypass := p.bypassApproval,
      quality := referenceQuality score (handlingFilters p) req channels }

theorem candidates_eq_eligible (score : MatchFunc) (clients : List Client.Proxy)
    (req : Option Request) (channels : List Channel) (unique : String) :
    candidates score clients req channels unique =
      eligibleCandidates score clients req channels unique := by
  induction clients with
  | nil => rfl
  | cons p rest ih =>
    simp only [candidates, eligibleCandidates] at ih ⊢
    rw [List.filterMap_cons, List.filter_cons, ih]
    -- the three tests of the code, in its order, against the three conditions of `eligible`
    split_ifs <;> simp_all [eligible, handlingFilters, quality_eq_reference, or_iff_not_imp_left]

/-! ## Stable ranking -/

namespace Candidate

/-- A candidate's rank: whether it bypasses approval, then its quality. -/
def key (c : Candidate) : Bool × Nat := (c.bypass, c.quality)

/-- A candidate is never ranked before itself or before one that is ranked before it. -/
theorem before_asymm (a b : Candidate) (ab : a.before b = true) : b.before a = false := by
  unfold before at *
  cases ha : a.bypass <;> cases hb : b.bypass <;> simp_all <;> omega

/-- Candidates that are not ranked before one another have the same rank. -/
theorem key_eq_of_incomparable {a b : Candidate} (ab : a.before b = false)
    (ba : b.before a = false) : a.key = b.key := by
  unfold before at *
  unfold key
  cases ha : a.bypass <;> cases hb : b.bypass <;> simp_all <;> omega

/-- Not being ranked after is transitive: the ranking is a strict weak order. -/
theorem not_before_trans {a b c : Candidate} (ba : b.before a = false)
    (cb : c.before b = false) : c.before a = false := by
  unfold before at *
  cases ha : a.bypass <;> cases hb : b.bypass <;> cases hc : c.bypass <;> simp_all <;> omega

/-- Candidates of the same rank are not ranked before one another. -/
theorem before_of_key_eq {a b : Candidate} (same : a.key = b.key) : a.before b = false := by
  simp only [key, Prod.mk.injEq] at same
  simp [before, same.1, same.2]

end Candidate

/-- `R` is `C` stably ranked: no candidate of `R` is ranked before an earlier one, and the
candidates of each rank come in `R` in their order in `C`. -/
def StablyRanked (C R : List Candidate) : Prop :=
  R.Pairwise (fun a b => b.before a = false) ∧
    ∀ k, R.filter (fun c => c.key = k) = C.filter (fun c => c.key = k)

/-- The ranking sorts by never putting a candidate after one ranked below it. -/
theorem rank_eq (C : List Candidate) : rank C = C.mergeSort fun a b => !b.before a := rfl

/-- The ranking is the candidates stably ranked. -/
theorem rank_stablyRanked (C : List Candidate) : StablyRanked C (rank C) := by
  have trans : ∀ a b c : Candidate, (!b.before a) = true → (!c.before b) = true →
      (!c.before a) = true := by
    intro a b c ab bc
    simp only [Bool.not_eq_true'] at *
    exact Candidate.not_before_trans ab bc
  have total : ∀ a b : Candidate, ((!b.before a) || !a.before b) = true := by
    intro a b
    cases ba : b.before a
    · rfl
    · simp [Candidate.before_asymm b a ba]
  refine ⟨(List.pairwise_mergeSort trans total C).imp fun ab => by simpa using ab, ?_⟩
  intro k
  -- the candidates of rank `k` are a sublist of the ranking, and there are as many there
  have ordered : (C.filter fun c => c.key = k).Pairwise fun a b => (!b.before a) = true := by
    refine List.Pairwise.imp_of_mem ?_ (List.pairwise_of_forall fun _ _ => trivial)
    intro a b memberA memberB _
    have keyA := (List.mem_filter.1 memberA).2
    have keyB := (List.mem_filter.1 memberB).2
    simp only [decide_eq_true_eq] at keyA keyB
    simp [Candidate.before_of_key_eq (keyB.trans keyA.symm)]
  have kept := (List.sublist_mergeSort trans total ordered List.filter_sublist).filter
    fun c => decide (c.key = k)
  rw [List.filter_filter, rank_eq] at *
  simp only [Bool.and_self] at kept
  have sameLength := ((List.mergeSort_perm C fun a b => !b.before a).filter fun c => decide (c.key = k)).length_eq
  exact (kept.eq_of_length sameLength.symm).symm

/-- Two lists with the same candidates of each rank, in the same order, both ranked: they are
equal. The first candidate of each has the best rank of all, so the two first candidates have the
same rank and are the first of that rank in both lists. -/
theorem eq_of_ranked_of_filter_eq :
    ∀ {R R' : List Candidate}, R.Pairwise (fun a b => b.before a = false) →
      R'.Pairwise (fun a b => b.before a = false) →
      (∀ k, R.filter (fun c => c.key = k) = R'.filter (fun c => c.key = k)) → R = R'
  | [], [], _, _, _ => rfl
  | [], b :: _, _, _, same => by simpa using (same b.key).symm
  | a :: _, [], _, _, same => by simpa using same a.key
  | a :: rest, b :: rest', ranked, ranked', same => by
    rw [List.pairwise_cons] at ranked ranked'
    have leading : a.key = b.key := by
      by_contra differ
      -- each first candidate also stands later in the other list, so neither ranks before the other
      have laterA : a ∈ rest' := by
        have self : a ∈ (a :: rest).filter (fun c => c.key = a.key) :=
          List.mem_filter.2 ⟨List.mem_cons_self, by simp⟩
        rw [same a.key] at self
        rcases List.mem_cons.1 (List.mem_filter.1 self).1 with rfl | later
        · exact absurd rfl differ
        · exact later
      have laterB : b ∈ rest := by
        have self : b ∈ (b :: rest').filter (fun c => c.key = b.key) :=
          List.mem_filter.2 ⟨List.mem_cons_self, by simp⟩
        rw [← same b.key] at self
        rcases List.mem_cons.1 (List.mem_filter.1 self).1 with rfl | later
        · exact absurd rfl differ
        · exact later
      exact differ (Candidate.key_eq_of_incomparable (ranked'.1 a laterA) (ranked.1 b laterB))
    have first := same a.key
    simp only [List.filter_cons, leading, decide_true, if_true, List.cons.injEq] at first
    obtain ⟨rfl, -⟩ := first
    refine congrArg (a :: ·) (eq_of_ranked_of_filter_eq ranked.2 ranked'.2 fun k => ?_)
    have atK := same k
    by_cases rankK : a.key = k
    · simpa [List.filter_cons, rankK] using atK
    · simpa [List.filter_cons, rankK] using atK

/-- The candidates stably ranked are one list. -/
theorem StablyRanked.unique {C R R' : List Candidate} (ranked : StablyRanked C R)
    (ranked' : StablyRanked C R') : R = R' :=
  eq_of_ranked_of_filter_eq ranked.1 ranked'.1 fun k => (ranked.2 k).trans (ranked'.2 k).symm

/-! ## The answer -/

/-- The answer with no candidate: the request's preferred handler alone, when the request names
one and a client of that name is registered, and no handler otherwise. -/
def preferredAlone (clients : List Client.Proxy) : Option Request → Option (List String)
  | some r =>
    if r.preferred ≠ "" ∧ ∃ p ∈ clients, Client.Proxy.name p = r.preferred then some [r.preferred]
    else none
  | none => none

theorem fallback_eq_preferredAlone (clients : List Client.Proxy) (r : Request) :
    (if r.preferred.isEmpty then none
      else (clients.find? (·.name == r.preferred)).map fun p => [p.name]) =
      preferredAlone clients (some r) := by
  by_cases empty : r.preferred = ""
  · simp [preferredAlone, empty]
  · cases found : clients.find? (·.name == r.preferred) with
    | none =>
      have absent := List.find?_eq_none.1 found
      simp_all [preferredAlone]
    | some p =>
      have named := List.find?_some found
      simp only [beq_iff_eq] at named
      have present : ∃ q ∈ clients, q.name = r.preferred := ⟨p, List.mem_of_find?_eq_some found, named⟩
      simp [preferredAlone, empty, present, named]

/-- The possible handlers follow the rule: for every match function, set of registered clients,
request, channels and unique name, the candidates stably ranked, of which there is exactly one
list, or with no candidate the preferred handler alone when it is registered. -/
theorem possibleHandlers_eq_reference (score : MatchFunc) (clients : List Client.Proxy)
    (req : Option Request) (channels : List Channel) (unique : String) :
    (∃ R, StablyRanked (eligibleCandidates score clients req channels unique) R) ∧
      ∀ R, StablyRanked (eligibleCandidates score clients req channels unique) R →
        possibleHandlers score clients req channels unique =
          if eligibleCandidates score clients req channels unique = [] then
            preferredAlone clients req
          else some (R.map (·.name)) := by
  refine ⟨⟨_, rank_stablyRanked _⟩, fun R ranked => ?_⟩
  rw [ranked.unique (rank_stablyRanked _)]
  unfold possibleHandlers
  rw [candidates_eq_eligible]
  generalize eligibleCandidates score clients req channels unique = C
  cases C with
  | nil =>
    cases req with
    | none => rfl
    | some r => exact fallback_eq_preferredAlone clients r
  | cons c rest => simp

end Registry

end MissionControl
