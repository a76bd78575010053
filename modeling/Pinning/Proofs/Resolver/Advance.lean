import Pinning.Proofs.Inevitable
import Pinning.Proofs.Resolver.Alone
import Pinning.Proofs.Resolver.Batch
/-!
Specs that are resolved together come to their results if the services answer every call and nobody
cancels. Their fan-outs may look at the token and wait, but between two strides only finitely often,
and every stride brings a spec to a later stage or its fan-out further.
-/

set_option autoImplicit false
set_option relaxedAutoImplicit false

namespace Pinning.Resolver

variable {r : Resolver} {strategy : Strategy} {written : String}

/-- Services that answer every question, and always the same to the same one. A lookup may panic,
but comes to an end. -/
structure Dependable (r : Resolver) : Prop where
  single : ∀ name version, ∃ answer, (r.services.single name version).Returns answer
  versioned : ∀ name version, ∃ answer, (r.services.versioned name version).Returns answer
  pin : ∀ written, ∃ answer, (r.services.pin written).Returns answer
  quiet : r.fanout.Quiet
  ends : r.fanout.Ends

namespace Dependable

variable (h : r.Dependable)
include h

theorem ask (inquiry : Inquiry) : ∃ drafted, (r.ask inquiry).Returns drafted := by
  cases inquiry with
  | legacy name version storePaths =>
    obtain ⟨answer, hanswer⟩ := h.single name version
    exact ⟨_, ((Activity.returns_note _).bind hanswer).unlessCancelled.bind
      (Activity.returns_pure _)⟩
  | enriched name version =>
    obtain ⟨answer, hanswer⟩ := h.versioned name version
    exact ⟨_, (Activity.returns_note _).bind (hanswer.bind (Activity.returns_pure _))⟩
  | release raw =>
    obtain ⟨answer, hanswer⟩ := h.pin raw
    exact ⟨_, (Activity.returns_note _).bind (hanswer.bind (Activity.returns_pure _))⟩

theorem draft (strategy : Strategy) (written : String) :
    ∃ drafted, (r.draft strategy written).Returns drafted := by
  rw [Resolver.draft]
  split
  · exact ⟨_, Activity.returns_pure _⟩
  · exact h.ask _

theorem steady_draft (strategy : Strategy) (written : String) :
    (r.draft strategy written).Steady := by
  obtain ⟨drafted, hdraft⟩ := h.draft strategy written
  exact hdraft.steady

theorem complete (draft : Draft) : ∃ result, (r.complete draft).Returns result := by
  cases hrefs : draft.refs with
  | none =>
    rw [Resolver.complete, hrefs]
    exact ⟨_, Activity.returns_pure _⟩
  | some refs =>
    obtain ⟨paths, hpaths⟩ := Fanout.exists_returns_resolve h.quiet h.ends refs
    exact ⟨_, returns_complete hrefs hpaths⟩

theorem resolve (strategy : Strategy) (written : String) :
    ∃ result, (r.resolve strategy written).Returns result := by
  obtain ⟨drafted, hdraft⟩ := h.draft strategy written
  cases drafted with
  | error cause => exact ⟨_, hdraft.bind (Activity.returns_pure _)⟩
  | ok draft =>
    obtain ⟨result, hresult⟩ := h.complete draft
    exact ⟨result, hdraft.bind hresult⟩

theorem returns_resolveAll (strategy : Strategy) (specs : List String) :
    ∃ alone : String → Except Error Package,
      (∀ written, (r.resolve strategy written).Returns (alone written))
      ∧ (r.resolveAll strategy specs).Returns
        (specs.map fun written => (written, alone written)) := by
  choose alone halone using h.resolve strategy
  refine ⟨alone, halone, ?_⟩
  exact Resolver.returns_resolveAll (fun written _ => h.steady_draft strategy written) h.quiet
    fun written _ => halone written

end Dependable

section Steps

/-- A step in which the fan-out of a spec looks at the token or waits, with a token that is not
cancelled. -/
inductive Idles (r : Resolver) (batch : Batch) : Batch → Prop
  | fetch {i : Nat} {written : String} {draft : Draft} {before after : Fanout.Progress}
      (htoken : batch.cancelled = false)
      (hspec : batch.specs[i]? = some (written, .fetching draft before))
      (hidle : Fanout.Idles r.fanout.behaviour before after) :
      Idles r batch (batch.withProgress i written (.fetching draft after) false)

/-- Any other step, with a token that is not cancelled. -/
structure Strides (r : Resolver) (strategy : Strategy) (batch next : Batch) : Prop where
  step : Step r strategy batch next
  before : batch.cancelled = false
  after : next.cancelled = false
  brings : ¬Idles r batch next

/-- A stride after any finite number of idle steps. -/
def Advances (r : Resolver) (strategy : Strategy) (batch next : Batch) : Prop :=
  ∃ mid, Relation.ReflTransGen (Idles r) batch mid ∧ Strides r strategy mid next

variable {batch next : Batch} {i : Nat} {progress later : Progress}

theorem Idles.step (h : Idles r batch next) : Step r strategy batch next := by
  cases h with
  | @fetch i written draft before after htoken hspec hidle =>
    have hstep : Fanout.Step r.fanout.behaviour (batch.cancelled, before) (false, after) := by
      rw [htoken]
      exact hidle.1
    exact .fetch hspec hstep

theorem Advances.reaches (h : Advances r strategy batch next) : Reaches r strategy batch next := by
  obtain ⟨mid, hidles, hstride⟩ := h
  have hmid : Reaches r strategy batch mid :=
    Relation.ReflTransGen.mono (fun _ _ hidle => hidle.step) _ _ hidles
  exact hmid.tail hstride.step

end Steps

section Size

/-- The number of steps by which a spec comes to its result, if its fan-out counts as one. -/
def Progress.stage : Progress → Nat
  | .ready => 3
  | .asking _ => 2
  | .fetching _ _ => 1
  | .settled _ => 0

def Progress.ahead : Progress → Nat
  | .fetching _ fanout => fanout.ahead
  | _ => 0

def Batch.total (batch : Batch) (size : Progress → Nat) : Nat :=
  sizeOfAll (fun entry => size entry.2) batch.specs

/-- How far a batch is from its results. The stages count first, as a fan-out can be of any size. -/
def Batch.distance (batch : Batch) : Nat × Nat :=
  (batch.total Progress.stage, batch.total Progress.ahead)

def Nearer : Nat × Nat → Nat × Nat → Prop := Prod.Lex (· < ·) (· < ·)

theorem wellFounded_nearer : WellFounded Nearer := (Prod.lex Nat.lt_wfRel Nat.lt_wfRel).wf

theorem not_nearer_self (distance : Nat × Nat) : ¬Nearer distance distance := by
  intro h
  rcases Prod.lex_def.1 h with hlt | ⟨-, hlt⟩
  · exact Nat.lt_irrefl _ hlt
  · exact Nat.lt_irrefl _ hlt

variable {batch next : Batch} {i : Nat} {progress later : Progress}

private theorem total_withProgress (size : Progress → Nat) (later : Progress) (token : Bool)
    (hspec : batch.specs[i]? = some (written, progress)) :
    (batch.withProgress i written later token).total size + size progress
      = batch.total size + size later :=
  sizeOfAll_set (fun entry : String × Progress => size entry.2) (written, later) hspec

private theorem nearer_of_stage (token : Bool) (hspec : batch.specs[i]? = some (written, progress))
    (hlt : later.stage < progress.stage) :
    Nearer (batch.withProgress i written later token).distance batch.distance := by
  have hstages := total_withProgress Progress.stage later token hspec
  exact Prod.Lex.left _ _ (by omega)

private theorem nearer_of_ahead (token : Bool) (hspec : batch.specs[i]? = some (written, progress))
    (hstage : later.stage = progress.stage) (hlt : later.ahead < progress.ahead) :
    Nearer (batch.withProgress i written later token).distance batch.distance := by
  have hstages := total_withProgress Progress.stage later token hspec
  have haheads := total_withProgress Progress.ahead later token hspec
  exact Prod.lex_def.2 (.inr
    ⟨by simp only [Batch.distance]; omega, by simp only [Batch.distance]; omega⟩)

theorem Idles.distance_eq (h : Idles r batch next) : next.distance = batch.distance := by
  cases h with
  | @fetch i written draft before after _ hspec hidle =>
    have hahead : after.ahead = before.ahead := Fanout.ahead_congr hidle.2.1 hidle.2.2
    have hstages := total_withProgress Progress.stage (.fetching draft after) false hspec
    have haheads := total_withProgress Progress.ahead (.fetching draft after) false hspec
    simp only [Progress.stage, Progress.ahead] at hstages haheads
    exact Prod.ext (by simp only [Batch.distance]; omega) (by simp only [Batch.distance]; omega)

private theorem stage_ofSpec (strategy : Strategy) (written : String) :
    (Progress.ofSpec strategy written).stage ≤ 2 := by
  rw [Progress.ofSpec]
  split <;> simp [Progress.stage]

private theorem stage_ofDraft (cacheUrl : String) (drafted : Except Error Draft) :
    (Progress.ofDraft cacheUrl drafted).stage ≤ 1 := by
  rw [Progress.ofDraft.eq_def]
  split
  · exact Nat.zero_le _
  · split <;> simp [Progress.stage]

theorem Strides.nearer (h : Strides r strategy batch next) :
    Nearer next.distance batch.distance := by
  obtain ⟨hstep, hbefore, hafter, hbrings⟩ := h
  cases hstep with
  | @start i written hspec =>
    exact nearer_of_stage _ hspec (Nat.lt_succ_of_le (stage_ofSpec strategy written))
  | @answer i written inquiry drafted hspec _ =>
    exact nearer_of_stage _ hspec (Nat.lt_succ_of_le (stage_ofDraft r.cacheUrl drafted))
  | @fetch i written draft fanout later cancelled hspec hfanout =>
    obtain rfl : cancelled = false := hafter
    rw [hbefore] at hfanout
    refine nearer_of_ahead _ hspec rfl ?_
    -- What leaves the fan-out where it is has been counted as idle.
    have hstride : Fanout.Strides r.fanout.behaviour fanout later := by
      refine ⟨hfanout, ?_⟩
      by_contra hsame
      simp only [not_or, not_not] at hsame
      exact hbrings (.fetch hbefore hspec ⟨hfanout, hsame⟩)
    exact hstride.ahead_lt
  | settle hspec _ => exact nearer_of_stage _ hspec Nat.zero_lt_one
  | cancel => cases hafter

theorem Advances.nearer (h : Advances r strategy batch next) :
    Nearer next.distance batch.distance := by
  obtain ⟨mid, hidles, hstride⟩ := h
  have hmid : mid.distance = batch.distance := by
    clear hstride
    induction hidles with
    | refl => rfl
    | tail _ hidle ih => exact hidle.distance_eq.trans ih
  rw [← hmid]
  exact hstride.nearer

end Size

section Liveness

variable {batch next : Batch} {i : Nat} {progress later : Progress}

private theorem advances_of_nearer {mid : Batch}
    (hidles : Relation.ReflTransGen (Idles r) batch mid) (hstep : Step r strategy mid next)
    (hbefore : mid.cancelled = false) (hafter : next.cancelled = false)
    (hnearer : Nearer next.distance mid.distance) : Advances r strategy batch next := by
  refine ⟨mid, hidles, hstep, hbefore, hafter, fun hidle => ?_⟩
  rw [hidle.distance_eq] at hnearer
  exact not_nearer_self _ hnearer

private theorem idles_of_fanout {draft : Draft} {before after : Fanout.Progress}
    (htoken : batch.cancelled = false)
    (hspec : batch.specs[i]? = some (written, .fetching draft before))
    (hidles : Relation.ReflTransGen (Fanout.Idles r.fanout.behaviour) before after) :
    ∃ mid, Relation.ReflTransGen (Idles r) batch mid ∧ mid.cancelled = false
      ∧ mid.specs[i]? = some (written, .fetching draft after) := by
  induction hidles with
  | refl => exact ⟨batch, .refl, htoken, hspec⟩
  | tail _ hidle ih =>
    obtain ⟨mid, hreach, hmid, hget⟩ := ih
    exact ⟨_, hreach.tail (.fetch hmid hget hidle), rfl, Batch.getElem?_withProgress hget⟩

theorem Dependable.exists_advances (h : r.Dependable) (strategy : Strategy)
    (htoken : batch.cancelled = false) (hspec : batch.specs[i]? = some (written, progress))
    (hopen : ∀ result, progress ≠ .settled result) :
    ∃ next, Advances r strategy batch next := by
  cases progress with
  | ready =>
    have hnearer := nearer_of_stage batch.cancelled hspec
      (Nat.lt_succ_of_le (stage_ofSpec strategy written))
    exact ⟨_, advances_of_nearer .refl (.start hspec) htoken htoken hnearer⟩
  | asking inquiry =>
    obtain ⟨drafted, hask⟩ := h.ask inquiry
    have hanswer : ((r.ask inquiry).course batch.cancelled).outcome = .returned drafted := by
      rw [htoken, hask.outcome]
    have hafter : (batch.cancelled || ((r.ask inquiry).course batch.cancelled).cancelled)
        = false := by
      rw [htoken, hask.token]
      rfl
    have hnearer := nearer_of_stage
      (batch.cancelled || ((r.ask inquiry).course batch.cancelled).cancelled) hspec
      (Nat.lt_succ_of_le (stage_ofDraft r.cacheUrl drafted))
    exact ⟨_, advances_of_nearer .refl (.answer hspec hanswer) htoken hafter hnearer⟩
  | fetching draft fanout =>
    cases hresult : fanout.result with
    | some paths =>
      have hnearer :
          Nearer (batch.withProgress i written (.settled (finish draft paths))
            batch.cancelled).distance
          batch.distance := nearer_of_stage _ hspec Nat.zero_lt_one
      exact ⟨_, advances_of_nearer .refl (.settle hspec hresult) htoken htoken hnearer⟩
    | none =>
      -- The fan-out may have to look at the token before its stride.
      obtain ⟨after, waiting, hidles, hstride⟩ := Fanout.exists_advances h.quiet h.ends hresult
      obtain ⟨mid, hreach, hmid, hget⟩ := idles_of_fanout htoken hspec hidles
      have hstep : Fanout.Step r.fanout.behaviour (mid.cancelled, waiting) (false, after) := by
        rw [hmid]
        exact hstride.1
      have hnearer : Nearer (mid.withProgress i written (.fetching draft after) false).distance
          mid.distance :=
        nearer_of_ahead false hget rfl hstride.ahead_lt
      exact ⟨_, advances_of_nearer hreach (.fetch hget hstep) hmid rfl hnearer⟩
  | settled result => exact absurd rfl (hopen result)

theorem exists_settled {specs : List (String × Progress)}
    (h : ∀ entry ∈ specs, ∃ result, entry.2 = .settled result) :
    ∃ results, Batch.Settled { specs } results := by
  induction specs with
  | nil => exact ⟨[], rfl⟩
  | cons entry rest ih =>
    obtain ⟨written, progress⟩ := entry
    obtain ⟨result, rfl⟩ := h _ List.mem_cons_self
    obtain ⟨results, hresults⟩ := ih fun other hother => h other (List.mem_cons_of_mem _ hother)
    exact ⟨(written, result) :: results, congrArg (_ :: ·) hresults⟩

/-- If a batch can advance as long as a spec has no result, and comes nearer whichever way it does,
all specs come to results. -/
theorem inevitable_settled {advances : Batch → Batch → Prop} {keeps : Batch → Prop}
    (hdown : ∀ last next, keeps last → advances last next →
      keeps next ∧ Nearer next.distance last.distance)
    (hable : ∀ last, keeps last →
      ∀ (i : Nat) written progress, last.specs[i]? = some (written, progress) →
      (∀ result, progress ≠ .settled result) → ∃ next, advances last next) (hbatch : keeps batch) :
    Inevitable advances (fun last => keeps last ∧ ∃ results, last.Settled results) batch := by
  refine inevitable_of_wellFounded wellFounded_nearer Batch.distance hdown (fun last hlast => ?_)
    hbatch
  by_cases hdone : ∀ entry ∈ last.specs, ∃ result, entry.2 = .settled result
  · exact .inl ⟨hlast, exists_settled hdone⟩
  · simp only [not_forall] at hdone
    obtain ⟨⟨written, progress⟩, hentry, hopen⟩ := hdone
    obtain ⟨i, hspec⟩ := List.mem_iff_getElem?.1 hentry
    exact .inr (hable last hlast i written progress hspec fun result heq => hopen ⟨result, heq⟩)

theorem Advances.after (h : Advances r strategy batch next) : next.cancelled = false := by
  obtain ⟨mid, -, hstride⟩ := h
  exact hstride.after

theorem Dependable.inevitable (h : r.Dependable) (strategy : Strategy)
    (htoken : batch.cancelled = false) :
    Inevitable (Advances r strategy)
      (fun last => Reaches r strategy batch last ∧ last.cancelled = false
          ∧ ∃ results, last.Settled results)
      batch := by
  let Reached (last : Batch) : Prop := Reaches r strategy batch last ∧ last.cancelled = false
  have hdown : ∀ last next, Reached last → Advances r strategy last next →
      Reached next ∧ Nearer next.distance last.distance :=
    fun last next hlast hadvances =>
      ⟨⟨hlast.1.trans hadvances.reaches, hadvances.after⟩, hadvances.nearer⟩
  have hable : ∀ last, Reached last → ∀ (i : Nat) written progress,
      last.specs[i]? = some (written, progress) → (∀ result, progress ≠ .settled result) →
      ∃ next, Advances r strategy last next :=
    fun last hlast i written progress hspec => h.exists_advances strategy hlast.2 hspec
  exact (inevitable_settled hdown hable ⟨.refl, htoken⟩).mono fun last hlast =>
    ⟨hlast.1.1, hlast.1.2, hlast.2⟩

end Liveness

end Pinning.Resolver
