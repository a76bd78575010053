import Pinning.Proofs.Fanout.Execution
import Pinning.Proofs.Fanout.Sound
import Pinning.Resolver.Schedule
/-!
What a spec can come to. `Settles` says it once for all runs: a draft, and for a draft with build
outputs some run of its fan-out. Resolving a spec alone and resolving it in any order beside others
both lead to such a result.
-/

set_option autoImplicit false
set_option relaxedAutoImplicit false

namespace Pinning.Resolver

open Activity (outcome_bind_eq_returned)

variable {r : Resolver} {strategy : Strategy} {written : String}

def Drafts (r : Resolver) (strategy : Strategy) (written : String) (cancelled : Bool)
    (drafted : Except Error Draft) : Prop :=
  ((r.draft strategy written).course cancelled).outcome = .returned drafted

/-- What a spec can come to while the token is in the end cancelled or not. -/
inductive Settles (r : Resolver) (strategy : Strategy) (written : String) (token : Bool) :
    Except Error Package → Prop
  | refused {before : Bool} {cause : Error} (hbefore : before = true → token = true)
      (hdraft : r.Drafts strategy written before (.error cause)) :
      Settles r strategy written token (.error cause)
  | drafted {before : Bool} {draft : Draft} (hbefore : before = true → token = true)
      (hdraft : r.Drafts strategy written before (.ok draft)) (hrefs : draft.refs = none) :
      Settles r strategy written token (.ok draft.package)
  | fetched {before first : Bool} {draft : Draft} {refs : Fanout.Refs} {s : Bool × Fanout.Progress}
      {paths : Except Error (SortedMap String)} (hbefore : before = true → token = true)
      (hdraft : r.Drafts strategy written before (.ok draft)) (hrefs : draft.refs = some refs)
      (hrun : Fanout.Reaches r.fanout.behaviour (first, .start r.cacheUrl refs) s)
      (hresult : s.2.result = some paths) (htoken : s.1 = true → token = true) :
      Settles r strategy written token (finish draft paths)

theorem settles_of_resolve (hkeeps : r.fanout.KeepsToken) {cancelled : Bool}
    {result : Except Error Package}
    (h : ((r.resolve strategy written).course cancelled).outcome = .returned result) :
    r.Settles strategy written true result := by
  obtain ⟨drafted, hdraft, hrest⟩ := outcome_bind_eq_returned.1 h
  cases drafted with
  | error cause =>
    obtain rfl := Outcome.returned.inj hrest
    exact .refused (fun _ => rfl) hdraft
  | ok draft =>
    simp only [complete] at hrest
    split at hrest
    · next hrefs =>
      obtain rfl := Outcome.returned.inj hrest
      exact .drafted (fun _ => rfl) hdraft hrefs
    · next refs hrefs =>
      obtain ⟨paths, hpaths, hfinish⟩ := outcome_bind_eq_returned.1 hrest
      obtain rfl := Outcome.returned.inj hfinish
      obtain ⟨q, hrun, hresult⟩ := Fanout.reaches_resolve hkeeps refs hpaths
      exact .fetched (fun _ => rfl) hdraft hrefs hrun hresult fun _ => rfl

section Schedule

theorem Settles.of_token {token later : Bool} {result : Except Error Package}
    (h : r.Settles strategy written token result) (hlater : token = true → later = true) :
    r.Settles strategy written later result := by
  cases h with
  | refused hbefore hdraft => exact .refused (hlater ∘ hbefore) hdraft
  | drafted hbefore hdraft hrefs => exact .drafted (hlater ∘ hbefore) hdraft hrefs
  | fetched hbefore hdraft hrefs hrun hresult htoken =>
    exact .fetched (hlater ∘ hbefore) hdraft hrefs hrun hresult (hlater ∘ htoken)

/-- What a spec has gone through when it has come this far. -/
def Traced (r : Resolver) (strategy : Strategy) (written : String) (token : Bool) :
    Progress → Prop
  | .ready => True
  | .asking inquiry => Inquiry.ofSpec strategy (Spec.parse written) = .ok inquiry
  | .fetching draft fanout => ∃ before first refs, (before = true → token = true)
      ∧ r.Drafts strategy written before (.ok draft) ∧ draft.refs = some refs
      ∧ Fanout.Reaches r.fanout.behaviour (first, .start r.cacheUrl refs) (token, fanout)
  | .settled result => r.Settles strategy written token result

theorem Traced.of_token {token later : Bool} {progress : Progress}
    (h : r.Traced strategy written token progress) (hlater : token = true → later = true) :
    r.Traced strategy written later progress := by
  cases progress with
  | ready => exact h
  | asking inquiry => exact h
  | settled result => exact Settles.of_token h hlater
  | fetching draft fanout =>
    obtain ⟨before, first, refs, hbefore, hdraft, hrefs, hrun⟩ := h
    refine ⟨before, first, refs, hlater ∘ hbefore, hdraft, hrefs, ?_⟩
    cases later with
    | true => exact hrun.tail .cancel
    | false =>
      cases token with
      | false => exact hrun
      | true => exact absurd (hlater rfl) Bool.false_ne_true

private theorem traced_ofSpec (r : Resolver) (strategy : Strategy) (written : String)
    (token : Bool) : r.Traced strategy written token (.ofSpec strategy written) := by
  rw [Progress.ofSpec]
  split
  · next cause hinquiry =>
    have hdraft : r.Drafts strategy written token (.error cause) := by
      rw [Drafts, draft, hinquiry]
      rfl
    exact Settles.refused id hdraft
  · next inquiry hinquiry => exact hinquiry

private theorem traced_ofDraft {before token : Bool} {drafted : Except Error Draft}
    (hbefore : before = true → token = true) (h : r.Drafts strategy written before drafted) :
    r.Traced strategy written token (.ofDraft r.cacheUrl drafted) := by
  cases drafted with
  | error cause => exact Settles.refused hbefore h
  | ok draft =>
    rw [Progress.ofDraft]
    split
    · next hrefs => exact Settles.drafted hbefore h hrefs
    · next refs hrefs => exact ⟨before, token, refs, hbefore, h, hrefs, .refl⟩

private theorem drafts_of_ask {inquiry : Inquiry} {token : Bool} {drafted : Except Error Draft}
    (hinquiry : Inquiry.ofSpec strategy (Spec.parse written) = .ok inquiry)
    (hask : ((r.ask inquiry).course token).outcome = .returned drafted) :
    r.Drafts strategy written token drafted := by
  rw [Drafts, draft, hinquiry]
  exact hask

theorem Batch.getElem?_withProgress {batch : Batch} {i : Nat} {progress later : Progress}
    {token : Bool} (hspec : batch.specs[i]? = some (written, progress)) :
    (batch.withProgress i written later token).specs[i]? = some (written, later) := by
  obtain ⟨hlt, -⟩ := List.getElem?_eq_some_iff.1 hspec
  simp [Batch.withProgress, hlt]

/-- Every spec of a batch has gone through what brought it where it is, with one of these resolvers.
-/
def AllTracedBy (among : Resolver → Prop) (strategy : Strategy) (batch : Batch) : Prop :=
  ∀ entry ∈ batch.specs, ∃ s, among s ∧ s.Traced strategy entry.1 batch.cancelled entry.2

namespace AllTracedBy

variable {among : Resolver → Prop} {batch next : Batch} {i : Nat} {progress : Progress}

theorem get (h : AllTracedBy among strategy batch)
    (hspec : batch.specs[i]? = some (written, progress)) :
    ∃ s, among s ∧ s.Traced strategy written batch.cancelled progress :=
  h (written, progress) (List.mem_of_getElem? hspec)

theorem withProgress (h : AllTracedBy among strategy batch) {token : Bool}
    (htoken : batch.cancelled = true → token = true)
    (hnew : ∃ s, among s ∧ s.Traced strategy written token progress) :
    AllTracedBy among strategy (batch.withProgress i written progress token) := by
  intro entry hentry
  rcases List.mem_or_eq_of_mem_set hentry with hentry | rfl
  · obtain ⟨s, hs, htraced⟩ := h entry hentry
    exact ⟨s, hs, htraced.of_token htoken⟩
  · exact hnew

/-- A spec asks its question of whichever resolver takes the step; from then on it is with that one,
as they all have one fan-out. -/
theorem step {f : Fanout} (hfanout : ∀ s, among s → s.fanout = f)
    (h : AllTracedBy among strategy batch) (hr : among r) (hstep : Step r strategy batch next) :
    AllTracedBy among strategy next := by
  cases hstep with
  | start _ => exact h.withProgress id ⟨r, hr, traced_ofSpec r strategy _ _⟩
  | @answer _ _ inquiry _ hspec hanswer =>
    have htoken : batch.cancelled = true
        → (batch.cancelled || ((r.ask inquiry).course batch.cancelled).cancelled) = true :=
      fun htoken => by rw [htoken, Bool.true_or]
    obtain ⟨_, -, hinquiry⟩ := h.get hspec
    exact h.withProgress htoken ⟨r, hr, traced_ofDraft htoken (drafts_of_ask hinquiry hanswer)⟩
  | fetch hspec hstep =>
    obtain ⟨s, hs, before, first, refs, hbefore, hdraft, hrefs, hrun⟩ := h.get hspec
    rw [hfanout r hr, ← hfanout s hs] at hstep
    exact h.withProgress hstep.token_mono
      ⟨s, hs, before, first, refs, hstep.token_mono ∘ hbefore, hdraft, hrefs, hrun.tail hstep⟩
  | settle hspec hresult =>
    obtain ⟨s, hs, before, first, refs, hbefore, hdraft, hrefs, hrun⟩ := h.get hspec
    exact h.withProgress id ⟨s, hs, Settles.fetched hbefore hdraft hrefs hrun hresult id⟩
  | cancel =>
    intro entry hentry
    obtain ⟨s, hs, htraced⟩ := h entry hentry
    exact ⟨s, hs, htraced.of_token fun _ => rfl⟩

end AllTracedBy

/-- Every spec of a batch has gone through what brought it where it is. -/
def AllTraced (r : Resolver) (strategy : Strategy) (batch : Batch) : Prop :=
  ∀ entry ∈ batch.specs, r.Traced strategy entry.1 batch.cancelled entry.2

namespace AllTraced

variable {batch next : Batch} {i : Nat} {progress : Progress}

theorem start (r : Resolver) (strategy : Strategy) (specs : List String) (cancelled : Bool) :
    r.AllTraced strategy (.start specs cancelled) := by
  intro entry hentry
  obtain ⟨written, -, rfl⟩ := List.mem_map.1 hentry
  trivial

theorem get (h : r.AllTraced strategy batch) (hspec : batch.specs[i]? = some (written, progress)) :
    r.Traced strategy written batch.cancelled progress :=
  h (written, progress) (List.mem_of_getElem? hspec)

theorem step (h : r.AllTraced strategy batch) (hstep : Step r strategy batch next) :
    r.AllTraced strategy next := by
  have hby : AllTracedBy (· = r) strategy batch := fun entry hentry => ⟨r, rfl, h entry hentry⟩
  intro entry hentry
  obtain ⟨_, rfl, htraced⟩ :=
    hby.step (f := r.fanout) (fun _ hs => congrArg fanout hs) rfl hstep entry hentry
  exact htraced

theorem run (h : r.AllTraced strategy batch) (hrun : Reaches r strategy batch next) :
    r.AllTraced strategy next := by
  induction hrun with
  | refl => exact h
  | tail _ hstep ih => exact ih.step hstep

end AllTraced

theorem settles_of_reaches {specs : List String} {cancelled : Bool} {batch : Batch}
    (hrun : Reaches r strategy (.start specs cancelled) batch) {result : Except Error Package}
    (hspec : (written, .settled result) ∈ batch.specs) :
    r.Settles strategy written batch.cancelled result :=
  (AllTraced.start r strategy specs cancelled).run hrun _ hspec

end Schedule

section Texts

variable {batch next : Batch} {i : Nat} {progress later : Progress} {token : Bool}

private theorem texts_withProgress (hspec : batch.specs[i]? = some (written, progress)) :
    (batch.withProgress i written later token).specs.map Prod.fst = batch.specs.map Prod.fst := by
  have hwritten : (batch.specs.map Prod.fst)[i]? = some written := by
    rw [List.getElem?_map, hspec]
    rfl
  obtain ⟨hlt, hget⟩ := List.getElem?_eq_some_iff.1 hwritten
  rw [Batch.withProgress, List.map_set, ← hget]
  exact List.set_getElem_self hlt

theorem Step.texts (h : Step r strategy batch next) :
    next.specs.map Prod.fst = batch.specs.map Prod.fst := by
  cases h with
  | start hspec => exact texts_withProgress hspec
  | answer hspec _ => exact texts_withProgress hspec
  | fetch hspec _ => exact texts_withProgress hspec
  | settle hspec _ => exact texts_withProgress hspec
  | cancel => rfl

theorem Reaches.texts {specs : List String} {cancelled : Bool}
    (hrun : Reaches r strategy (.start specs cancelled) batch) :
    batch.specs.map Prod.fst = specs := by
  induction hrun with
  | refl => simp [Batch.start, Function.comp_def]
  | tail _ hstep ih => exact hstep.texts.trans ih

theorem Batch.Settled.texts {results : List (String × Except Error Package)}
    (h : batch.Settled results) :
    results.map Prod.fst = batch.specs.map Prod.fst := by
  rw [h, List.map_map]
  rfl

theorem Batch.Settled.mem {results : List (String × Except Error Package)}
    (h : batch.Settled results) {entry : String × Except Error Package} (hentry : entry ∈ results) :
    (entry.1, .settled entry.2) ∈ batch.specs := by
  rw [h]
  exact List.mem_map_of_mem hentry

end Texts

end Pinning.Resolver
