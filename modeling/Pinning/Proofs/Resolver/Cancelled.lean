import Pinning.Proofs.Resolver.GivesWay
import Pinning.Proofs.Url.Below
/-!
A configured resolver honours a cancellation. Whatever is under way when the token is cancelled, the
question of a spec or a lookup of its fan-out, the spec comes to the cancellation and to nothing
else, alone and beside other specs.
-/

set_option autoImplicit false
set_option relaxedAutoImplicit false

namespace Pinning.Resolver

open Http (Network Request)

variable {config : Config} {network : Network} {r : Resolver} {strategy : Strategy}
  {written : String}

section Turning

/-- What a spec does in a step of its own: the token and its progress before and after. -/
inductive Forward (r : Resolver) (strategy : Strategy) (written : String) :
    Bool × Progress → Bool × Progress → Prop
  | start {token : Bool} :
      Forward r strategy written (token, .ready) (token, .ofSpec strategy written)
  | answer {token : Bool} {inquiry : Inquiry} {drafted : Except Error Draft}
      (hanswer : ((r.ask inquiry).course token).outcome = .returned drafted) :
      Forward r strategy written (token, .asking inquiry)
        (token || ((r.ask inquiry).course token).cancelled, .ofDraft r.cacheUrl drafted)
  | fetch {token after : Bool} {draft : Draft} {fanout later : Fanout.Progress}
      (hstep : Fanout.Step r.fanout.behaviour (token, fanout) (after, later)) :
      Forward r strategy written (token, .fetching draft fanout) (after, .fetching draft later)
  | settle {token : Bool} {draft : Draft} {fanout : Fanout.Progress}
      {paths : Except Error (SortedMap String)} (hresult : fanout.result = some paths) :
      Forward r strategy written (token, .fetching draft fanout)
        (token, .settled (finish draft paths))

variable {batch next : Batch} {i : Nat} {progress later : Progress} {token : Bool}

theorem Step.forward (hstep : Step r strategy batch next)
    (hspec : batch.specs[i]? = some (written, progress)) :
    next.specs[i]? = some (written, progress)
      ∨ ∃ later, next.specs[i]? = some (written, later)
        ∧ Forward r strategy written (batch.cancelled, progress) (next.cancelled, later) := by
  have hset : ∀ (j : Nat) (w : String) (p q : Progress) (c : Bool), batch.specs[j]? = some (w, p) →
      Forward r strategy w (batch.cancelled, p) (c, q) →
      (batch.withProgress j w q c).specs[i]? = some (written, progress)
        ∨ ∃ later, (batch.withProgress j w q c).specs[i]? = some (written, later)
          ∧ Forward r strategy written (batch.cancelled, progress) (c, later) := by
    intro j w p q c hj hforward
    by_cases heq : j = i
    · subst heq
      obtain ⟨rfl, rfl⟩ : w = written ∧ p = progress := by simpa [hj] using hspec
      exact .inr ⟨q, Batch.getElem?_withProgress hj, hforward⟩
    · refine .inl ?_
      rw [Batch.withProgress, List.getElem?_set_ne heq]
      exact hspec
  cases hstep with
  | start hready => exact hset _ _ _ _ _ hready .start
  | answer hasking hanswer => exact hset _ _ _ _ _ hasking (.answer hanswer)
  | fetch hfetching hfanout => exact hset _ _ _ _ _ hfetching (.fetch hfanout)
  | settle hfetching hresult => exact hset _ _ _ _ _ hfetching (.settle hresult)
  | cancel => exact .inl hspec

/-- The spec is under way: it has not started, its question is not answered, or its fan-out has not
taken notice of the end of every lookup. -/
inductive Unresolved : Progress → Prop
  | ready : Unresolved .ready
  | asking (inquiry : Inquiry) : Unresolved (.asking inquiry)
  | fetching {draft : Draft} {fanout : Fanout.Progress} (h : Fanout.Unfinished fanout) :
      Unresolved (.fetching draft fanout)

/-- With a token that is cancelled, the spec can only come to the cancellation. -/
inductive Turned : Progress → Prop
  | ready : Turned .ready
  | asking (inquiry : Inquiry) : Turned (.asking inquiry)
  | fetching {draft : Draft} {fanout : Fanout.Progress} (h : Fanout.Doomed (true, fanout)) :
      Turned (.fetching draft fanout)
  | settled : Turned (.settled (.error .cancelled))

theorem sound_of_traced {draft : Draft} {fanout : Fanout.Progress}
    (h : r.Traced strategy written token (.fetching draft fanout)) :
    ∃ refs, Fanout.Sound r.fanout.behaviour r.cacheUrl refs (token, fanout) := by
  obtain ⟨before, first, refs, -, hdraft, hrefs, hrun⟩ := h
  exact ⟨refs, (Fanout.Sound.start _ _ refs first).run (nodup_refs_of_draft hdraft hrefs) hrun⟩

theorem Unresolved.turned (h : Unresolved progress)
    (htraced : r.Traced strategy written token progress) :
    Turned progress := by
  cases h with
  | ready => exact .ready
  | asking inquiry => exact .asking inquiry
  | fetching hunfinished =>
    obtain ⟨refs, hsound⟩ := sound_of_traced htraced
    exact .fetching (hsound.doomed hunfinished)

/-- What a configured resolver does about a cancellation. -/
structure Obeys (r : Resolver) (strategy : Strategy) (written : String) : Prop where
  asks : ∃ inquiry, Inquiry.ofSpec strategy (Spec.parse written) = .ok inquiry
    ∧ ∀ cancelled, ((r.ask inquiry).course cancelled).cancelled = true →
      ((r.ask inquiry).course cancelled).outcome = .returned (.error .cancelled)
  /-- No question at all yields a draft when the token is cancelled before. -/
  refuses : ∀ inquiry, ∃ cause, ((r.ask inquiry).course true).outcome = .returned (.error cause)
  keeps : ∀ inquiry, (r.ask inquiry).KeepsToken
  calm : ∀ ref cacheUrl before after, ¬r.fanout.behaviour ref cacheUrl before after .panicked

variable (hobeys : r.Obeys strategy written)
include hobeys

private theorem turned_of_fetch {draft : Draft} {fanout : Fanout.Progress} {refs : Fanout.Refs}
    (hsound : Fanout.Sound r.fanout.behaviour r.cacheUrl refs (true, fanout))
    (hdoomed : Fanout.Doomed (true, fanout)) {paths : Except Error (SortedMap String)}
    (hresult : fanout.result = some paths) : Turned (.settled (finish draft paths)) := by
  obtain rfl := hdoomed.result_eq hsound hobeys.calm hresult
  exact .settled

theorem Unresolved.forward {after : Bool} (h : Unresolved progress)
    (htraced : r.Traced strategy written token progress)
    (hforward : Forward r strategy written (token, progress) (after, later))
    (hafter : after = true) :
    Turned later := by
  obtain ⟨inquiry, hinquiry, hends⟩ := hobeys.asks
  cases hforward with
  | start =>
    rw [Progress.ofSpec, hinquiry]
    exact .asking inquiry
  | @answer _ asked drafted hanswer =>
    obtain rfl := Except.ok.inj (hinquiry.symm.trans htraced)
    have hcancelled : ((r.ask inquiry).course token).cancelled = true := by
      cases token with
      | false => exact hafter
      | true => exact hobeys.keeps inquiry
    obtain rfl := Outcome.returned.inj ((hends token hcancelled).symm.trans hanswer)
    exact .settled
  | fetch hstep =>
    subst hafter
    cases h with
    | fetching hunfinished =>
      -- The step may itself be the one that cancels the token, so the fan-out is doomed only after
      -- it.
      obtain ⟨refs, hsound⟩ := sound_of_traced htraced
      exact .fetching (hsound.doomed_of_step hunfinished hstep)
  | settle hresult =>
    subst hafter
    cases h with
    | fetching hunfinished =>
      obtain ⟨refs, hsound⟩ := sound_of_traced htraced
      exact turned_of_fetch hobeys hsound (hsound.doomed hunfinished) hresult

theorem Turned.forward {after : Bool} (h : Turned progress)
    (htraced : r.Traced strategy written true progress)
    (hforward : Forward r strategy written (true, progress) (after, later)) : Turned later := by
  have hafter : ∀ {fanout other : Fanout.Progress},
      Fanout.Step r.fanout.behaviour (true, fanout) (after, other) → after = true :=
    fun hstep => hstep.token_mono rfl
  cases h with
  | ready => exact Unresolved.ready.forward hobeys htraced hforward (by cases hforward; rfl)
  | asking inquiry =>
    exact (Unresolved.asking inquiry).forward hobeys htraced hforward (by cases hforward; rfl)
  | fetching hdoomed =>
    obtain ⟨refs, hsound⟩ := sound_of_traced htraced
    cases hforward with
    | fetch hstep =>
      obtain rfl := hafter hstep
      exact .fetching (hdoomed.step hstep)
    | settle hresult => exact turned_of_fetch hobeys hsound hdoomed hresult
  | settled => cases hforward

end Turning

section Size

variable {batch next : Batch}

/-- The number of steps that a spec can still take with a token that is cancelled. -/
def Progress.left : Progress → Nat
  | .ready => 2
  | .asking _ => 1
  | .fetching _ fanout => fanout.left + 1
  | .settled _ => 0

/-- The number of steps that listed specs can still take with a token that is cancelled. -/
def leftOf : List (String × Progress) → Nat
  | [] => 0
  | entry :: rest => entry.2.left + leftOf rest

/-- The number of steps that a batch can still take with a token that is cancelled. -/
def Batch.left (batch : Batch) : Nat := leftOf batch.specs

private theorem leftOf_eq (specs : List (String × Progress)) :
    leftOf specs = sizeOfAll (fun entry => entry.2.left) specs := by
  induction specs with
  | nil => rfl
  | cons entry rest ih => rw [leftOf, sizeOfAll, ih]

private theorem leftOf_set_lt {specs : List (String × Progress)} {i : Nat}
    {old new : String × Progress} (hold : specs[i]? = some old) (hlt : new.2.left < old.2.left) :
    leftOf (specs.set i new) < leftOf specs := by
  have hsum := sizeOfAll_set (fun entry : String × Progress => entry.2.left) new hold
  rw [leftOf_eq, leftOf_eq]
  omega

theorem Step.left_lt
    (hrefuses : ∀ inquiry, ∃ cause,
      ((r.ask inquiry).course true).outcome = .returned (.error cause))
    (hstep : Step r strategy batch next) (htoken : batch.cancelled = true) (hne : next ≠ batch) :
    next.left < batch.left := by
  cases hstep with
  | @start i written hspec =>
    refine leftOf_set_lt hspec ?_
    rw [Progress.ofSpec]
    split <;> simp [Progress.left]
  | @answer i written inquiry drafted hspec hanswer =>
    obtain ⟨cause, hcause⟩ := hrefuses inquiry
    rw [htoken] at hanswer
    obtain rfl := Outcome.returned.inj (hcause.symm.trans hanswer)
    exact leftOf_set_lt hspec (by simp [Progress.ofDraft, Progress.left])
  | @fetch i written draft before after cancelled hspec hstep =>
    refine leftOf_set_lt hspec ?_
    rw [htoken] at hstep
    have hafter : cancelled = true := hstep.token_mono rfl
    -- A step that left the fan-out as it is would have left the batch as it is.
    have hchange : after ≠ before := by
      rintro rfl
      refine hne ?_
      have hsame : batch.specs.set i (written, .fetching draft after) = batch.specs := by
        obtain ⟨hlt, hget⟩ := List.getElem?_eq_some_iff.1 hspec
        rw [← hget]
        exact List.set_getElem_self hlt
      rw [Batch.withProgress, hsame, hafter, ← htoken]
    exact Nat.succ_lt_succ (hstep.left_lt hchange)
  | settle hspec hresult => exact leftOf_set_lt hspec (Nat.succ_pos _)
  | cancel =>
    refine absurd ?_ hne
    rw [← htoken]

end Size

section Liveness

variable {batch next : Batch} {i : Nat} {progress : Progress}

/-- The spec at a place has come to the cancellation. -/
def Batch.CancelledAt (i : Nat) (written : String) (batch : Batch) : Prop :=
  batch.specs[i]? = some (written, .settled (.error .cancelled))

def Moves (r : Resolver) (strategy : Strategy) (batch next : Batch) : Prop :=
  Step r strategy batch next ∧ next ≠ batch

theorem Step.token_mono (h : Step r strategy batch next) (htoken : batch.cancelled = true) :
    next.cancelled = true := by
  cases h with
  | start _ | settle _ _ => exact htoken
  | answer _ _ => simp [Batch.withProgress, htoken]
  | fetch _ hstep => exact hstep.token_mono htoken
  | cancel => rfl

private theorem moves_withProgress {later : Progress} {token : Bool}
    (hspec : batch.specs[i]? = some (written, progress)) (hne : later ≠ progress)
    (hstep : Step r strategy batch (batch.withProgress i written later token)) :
    ∃ next, Moves r strategy batch next := by
  refine ⟨_, hstep, fun heq => hne ?_⟩
  have hget : (batch.withProgress i written later token).specs[i]? = some (written, later) :=
    Batch.getElem?_withProgress hspec
  rw [heq, hspec] at hget
  exact (congrArg Prod.snd (Option.some.inj hget)).symm

/-- The token is cancelled, and the spec at a place can only come to the cancellation. -/
structure TurnedAt (r : Resolver) (strategy : Strategy) (i : Nat) (written : String)
    (batch : Batch) :
    Prop where
  traced : r.AllTraced strategy batch
  token : batch.cancelled = true
  turned : ∃ progress, batch.specs[i]? = some (written, progress) ∧ Turned progress

namespace TurnedAt

theorem step (h : r.TurnedAt strategy i written batch) (hobeys : r.Obeys strategy written)
    (hstep : Step r strategy batch next) : r.TurnedAt strategy i written next := by
  obtain ⟨progress, hspec, hturned⟩ := h.turned
  refine { traced := h.traced.step hstep, token := hstep.token_mono h.token, turned := ?_ }
  rcases hstep.forward hspec with hsame | ⟨later, hlater, hforward⟩
  · exact ⟨progress, hsame, hturned⟩
  · have htraced := h.traced.get hspec
    rw [h.token] at htraced hforward
    exact ⟨later, hlater, hturned.forward hobeys htraced hforward⟩

theorem run (h : r.TurnedAt strategy i written batch) (hobeys : r.Obeys strategy written)
    (hrun : Reaches r strategy batch next) : r.TurnedAt strategy i written next := by
  induction hrun with
  | refl => exact h
  | tail _ hstep ih => exact ih.step hobeys hstep

theorem exists_moves (h : r.TurnedAt strategy i written batch) (hobeys : r.Obeys strategy written) :
    batch.CancelledAt i written ∨ ∃ next, Moves r strategy batch next := by
  obtain ⟨progress, hspec, hturned⟩ := h.turned
  cases hturned with
  | ready =>
    obtain ⟨inquiry, hinquiry, -⟩ := hobeys.asks
    refine .inr (moves_withProgress hspec ?_ (.start hspec))
    simp [Progress.ofSpec, hinquiry]
  | asking inquiry =>
    obtain ⟨cause, hcause⟩ := hobeys.refuses inquiry
    rw [← h.token] at hcause
    exact .inr (moves_withProgress hspec (by simp [Progress.ofDraft]) (.answer hspec hcause))
  | @fetching draft fanout hdoomed =>
    cases hresult : fanout.result with
    | some paths => exact .inr (moves_withProgress hspec (by simp) (.settle hspec hresult))
    | none =>
      obtain ⟨later, hstep, hne⟩ :=
        Fanout.exists_step_of_cancelled (b := r.fanout.behaviour) hresult
      rw [← h.token] at hstep
      exact .inr (moves_withProgress hspec (by simpa using hne) (.fetch hspec hstep))
  | settled => exact .inl hspec

theorem inevitable (h : r.TurnedAt strategy i written batch) (hobeys : r.Obeys strategy written) :
    Inevitable (Moves r strategy) (Batch.CancelledAt i written) batch := by
  refine inevitable_of_size Batch.left ?_ (fun b hb => hb.exists_moves hobeys) h
  rintro b c hb ⟨hstep, hne⟩
  exact ⟨hb.step hobeys hstep, hstep.left_lt hobeys.refuses hb.token hne⟩

theorem settled (h : r.TurnedAt strategy i written batch) {result : Except Error Package}
    (hspec : batch.specs[i]? = some (written, .settled result)) : result = .error .cancelled := by
  obtain ⟨progress, hget, hturned⟩ := h.turned
  obtain rfl := congrArg Prod.snd (Option.some.inj (hget.symm.trans hspec))
  cases hturned
  rfl

end TurnedAt

theorem turnedAt_of_step (hobeys : r.Obeys strategy written) (htraced : r.AllTraced strategy batch)
    (hstep : Step r strategy batch next) (htoken : next.cancelled = true)
    (hspec : batch.specs[i]? = some (written, progress)) (hunresolved : Unresolved progress) :
    r.TurnedAt strategy i written next := by
  refine { traced := htraced.step hstep, token := htoken, turned := ?_ }
  rcases hstep.forward hspec with hsame | ⟨later, hlater, hforward⟩
  · exact ⟨progress, hsame, hunresolved.turned (htraced.get hspec)⟩
  · exact ⟨later, hlater, hunresolved.forward hobeys (htraced.get hspec) hforward htoken⟩

end Liveness

section Configured

theorem obeys_of_ofConfig (hconfig : ofConfig config network = .ok r)
    (hsearch : HasHierarchicalSearch config) (hanswerable : IsAnswerable written)
    (strategy : Strategy) : r.Obeys strategy written where
  asks := by
    obtain ⟨inquiry, hinquiry, hreference⟩ := hanswerable.ofSpec strategy
    exact ⟨inquiry, hinquiry, (givesWay_ask hconfig hsearch hreference).ends⟩
  refuses inquiry := by
    rcases givesWay_ask_or hconfig hsearch inquiry with hgives | ⟨raw, hrefused⟩
    · exact ⟨_, hgives.ends true hgives.token⟩
    · exact ⟨.invalidSpec raw, by rw [hrefused]; rfl⟩
  keeps inquiry := by
    rcases givesWay_ask_or hconfig hsearch inquiry with hgives | ⟨raw, hrefused⟩
    · exact hgives.token
    · rw [hrefused]
      rfl
  calm ref cacheUrl before after := by
    rintro ⟨-, hpanic⟩
    obtain ⟨http, search, releases, -, -, -, rfl⟩ := ofConfig_eq_ok hconfig
    exact (Store.served_lookup network http ref.hash (some ref.name) cacheUrl).calm before hpanic

/-- A cancellation is honoured at every stage. With a token that is cancelled before, no request is
sent and the result is the cancellation. It is the result as well if the token is cancelled while a
request is held back. And in whatever order specs take their steps, a spec that is under way when
the token becomes cancelled comes to the cancellation, whichever steps follow, and to nothing else.
-/
theorem cancelled_at_every_stage (hconfig : ofConfig config network = .ok r)
    (hsearch : HasHierarchicalSearch config) (hanswerable : IsAnswerable written)
    (strategy : Strategy) :
    (((r.resolve strategy written).course true).outcome = .returned (.error .cancelled)
        ∧ ∀ request, .request request ∉ ((r.resolve strategy written).course true).events)
      ∧ (∀ request, .request request ∈ ((r.resolve strategy written).course false).events →
        network request = .withheld true →
        ((r.resolve strategy written).course false).outcome = .returned (.error .cancelled))
      ∧ ∀ specs cancelled batch next i progress,
        Reaches r strategy (.start specs cancelled) batch → Step r strategy batch next →
        next.cancelled = true → batch.specs[i]? = some (written, progress) → Unresolved progress →
        Inevitable (Moves r strategy) (Batch.CancelledAt i written) next
          ∧ ∀ later result, Reaches r strategy next later →
            later.specs[i]? = some (written, .settled result) → result = .error .cancelled := by
  have hgives := givesWay_resolve hconfig hsearch hanswerable strategy
  have hobeys := obeys_of_ofConfig hconfig hsearch hanswerable strategy
  refine ⟨⟨hgives.ends true hgives.token, hgives.silent⟩, ?_, ?_⟩
  · intro request hsent hheld
    exact hgives.ends false (hgives.heeds false request hsent hheld)
  · intro specs cancelled batch next i progress hrun hstep htoken hspec hunresolved
    have htraced := (AllTraced.start r strategy specs cancelled).run hrun
    have hturned := turnedAt_of_step hobeys htraced hstep htoken hspec hunresolved
    refine ⟨hturned.inevitable hobeys, fun later result hrest hsettled => ?_⟩
    exact (hturned.run hobeys hrest).settled hsettled

/-- A network on which every request is held back until the caller cancels. -/
def holding : Network := fun _ => .withheld true

/-- What the default resolver does about a legacy package on that network. -/
def heldEvents : Except Error (List Event) :=
  (ofConfig {} holding).map fun r => ((r.resolve ⟨.legacy, true⟩ "hello@1").course false).events

def heldRequest : Request where
  url := {
    scheme := "https"
    authority := some { credentials := {}, host := .domain "search.devbox.sh", port := none }
    path := .segments ["v1", "resolve"]
    query := some "name=hello&version=1"
    fragment := none }
  accept := "*/*"
  userAgent := some "pkgresolve/0.1.0"
  authorization := none

private theorem heldEvents_eq :
    heldEvents = .ok [.search .legacy "hello" "1", .request heldRequest] := by decide +kernel

private theorem hasHierarchicalSearch_default : HasHierarchicalSearch {} := by
  have hbase : Http.baseUrl ({} : Config).search.url
      = .ok { heldRequest.url with path := .segments [""], query := none } := by
    exact Url.baseUrl_of_parse (u := { heldRequest.url with path := .segments [""], query := none })
      (by decide +kernel)
  intro base hother
  rw [hbase] at hother
  obtain rfl := Except.ok.inj hother
  exact ⟨_, rfl⟩

/-- The default resolver is held back by the search service, or finds the token cancelled. -/
theorem cancelled_at_every_stage_held :
    ∃ r, ofConfig {} holding = .ok r ∧ HasHierarchicalSearch {} ∧ IsAnswerable "hello@1"
      ∧ .request heldRequest ∈ ((r.resolve ⟨.legacy, true⟩ "hello@1").course false).events
      ∧ ((r.resolve ⟨.legacy, true⟩ "hello@1").course false).outcome = .returned (.error .cancelled)
      ∧ Inevitable (Moves r ⟨.legacy, true⟩) (Batch.CancelledAt 0 "hello@1")
        { Batch.start ["hello@1"] false with cancelled := true } := by
  have hanswerable : IsAnswerable "hello@1" := ⟨by decide, by decide⟩
  cases hconfig : ofConfig {} holding with
  | error cause =>
    have hevents := heldEvents_eq
    rw [heldEvents, hconfig] at hevents
    cases hevents
  | ok r =>
    have hevents := heldEvents_eq
    rw [heldEvents, hconfig] at hevents
    have hcourse : ((r.resolve ⟨.legacy, true⟩ "hello@1").course false).events
        = [.search .legacy "hello" "1", .request heldRequest] := Except.ok.inj hevents
    have hsent : .request heldRequest
        ∈ ((r.resolve ⟨.legacy, true⟩ "hello@1").course false).events := by
      rw [hcourse]
      simp
    obtain ⟨-, hheld, hschedule⟩ :=
      cancelled_at_every_stage hconfig hasHierarchicalSearch_default hanswerable ⟨.legacy, true⟩
    refine ⟨r, rfl, hasHierarchicalSearch_default, hanswerable, hsent, hheld heldRequest hsent rfl,
      ?_⟩
    exact (hschedule ["hello@1"] false _ _ 0 .ready .refl .cancel rfl rfl .ready).1

end Configured

end Pinning.Resolver
