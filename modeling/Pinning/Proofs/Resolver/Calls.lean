import Pinning.Proofs.Draft
import Pinning.Proofs.Fanout.Cancelled
import Pinning.Proofs.Fanout.Order
import Pinning.Proofs.Resolver.Execution
import Pinning.Proofs.Resolver.Protocols
/-!
Which services a resolution calls. The spec and the strategy decide whom it asks first, and nobody
else is asked but the store: by the legacy protocol, for a record with a representative entry, about
each complete build output once. The course of a resolution shows every call with what the service
does about it right behind.
-/

set_option autoImplicit false
set_option relaxedAutoImplicit false

namespace Pinning

open Activity (course_bind_of_returned events_bind_of_ended events_bind_pure
  outcome_bind_eq_returned)

namespace Fanout

/-- Calls to the store, each with whether the token is cancelled by then. -/
abbrev Lookups := List (Store.Ref × Bool)

/-- What is seen of calls to the store: each call, and right behind it what the store does about it.
-/
def trace (f : Fanout) (lookups : Lookups) : List Event :=
  lookups.flatMap fun call => .lookup call.1 f.cacheUrl :: (f.lookupCourse call.1 call.2).events

variable {f : Fanout}

theorem exists_trace_tasks (f : Fanout) (refs : Refs) (cancelled : Bool) :
    ∃ lookups : Lookups, lookups.map Prod.fst = refs.map Prod.snd
      ∧ ((f.tasks refs).course cancelled).events = f.trace lookups := by
  induction refs generalizing cancelled with
  | nil => exact ⟨[], rfl, rfl⟩
  | cons entry rest ih =>
    obtain ⟨platform, ref⟩ := entry
    obtain ⟨endings, hends⟩ := exists_outcome_tasks f rest (f.lookupCourse ref cancelled).cancelled
    -- The later lookups find the token as this one leaves it.
    obtain ⟨lookups, hrefs, hevents⟩ := ih (f.lookupCourse ref cancelled).cancelled
    refine ⟨(ref, cancelled) :: lookups, by simp [hrefs], ?_⟩
    rw [f.course_tasks_cons platform ref rest cancelled hends, hevents]
    simp [trace]

theorem exists_trace_resolve (f : Fanout) (refs : Refs) :
    ∃ lookups : Lookups, lookups.map Prod.fst = (wanted refs).map Prod.snd
      ∧ ((f.resolve refs).course false).events = f.trace lookups := by
  obtain ⟨endings, hends⟩ := exists_outcome_tasks f (wanted refs) false
  obtain ⟨lookups, hrefs, hevents⟩ := exists_trace_tasks f (wanted refs) false
  have hcourse : (f.resolve refs).course false = (f.tasks (wanted refs) >>= join).course false :=
    rfl
  have hjoin : ∀ cancelled, ((join endings).course cancelled).events = [] := fun _ => rfl
  refine ⟨lookups, hrefs, ?_⟩
  rw [hcourse, course_bind_of_returned hends, hevents, hjoin, List.append_nil]

theorem gather_eq_error {cancelled : Bool} {endings : Endings} {cause : Error}
    (h : gather cancelled endings = .returned (.error cause)) :
    cause = .cancelled ∧ cancelled = true ∨ ∃ problem, cause = .fanout problem := by
  rw [gather] at h
  split at h
  · next htoken => exact .inl ⟨(Except.error.inj (Outcome.returned.inj h)).symm, htoken⟩
  · split at h
    · exact .inr ⟨_, (Except.error.inj (Outcome.returned.inj h)).symm⟩
    · split at h
      · cases h
      · cases Outcome.returned.inj h

theorem resolve_eq_error {refs : Refs} {cancelled : Bool} {cause : Error}
    (h : ((f.resolve refs).course cancelled).outcome = .returned (.error cause)) :
    cause = .cancelled ∧ ((f.resolve refs).course cancelled).cancelled = true
      ∨ ∃ problem, cause = .fanout problem := by
  cases cancelled with
  | true => exact .inl ⟨(Except.error.inj (Outcome.returned.inj h)).symm, rfl⟩
  | false =>
    have hcourse : (f.resolve refs).course false = (f.tasks (wanted refs) >>= join).course false :=
      rfl
    rw [hcourse] at h ⊢
    obtain ⟨endings, hends, hgather⟩ := outcome_bind_eq_returned.1 h
    rw [course_bind_of_returned hends]
    exact gather_eq_error hgather

theorem Step.asked_of_result {b : Behaviour} {s t : Bool × Progress} (h : Step b s t)
    {result : Except Error (SortedMap String)} (hresult : s.2.result = some result) :
    t.2.asked = s.2.asked ∧ t.2.result = some result := by
  cases h with
  | cancel => exact ⟨rfl, hresult⟩
  | work hnone _ _ | look hnone | wait hnone _ | giveUp hnone _ | notice hnone _ _ _
    | breakDown hnone _ _ _ | finish hnone _ _ => cases hnone.symm.trans hresult

theorem Reaches.asked_of_result {b : Behaviour} {s t : Bool × Progress} (h : Reaches b s t)
    {result : Except Error (SortedMap String)} (hresult : s.2.result = some result) :
    t.2.asked = s.2.asked := by
  suffices hboth : t.2.asked = s.2.asked ∧ t.2.result = some result from hboth.1
  induction h with
  | refl => exact ⟨rfl, hresult⟩
  | tail _ hstep ih =>
    obtain ⟨hasked, hnext⟩ := hstep.asked_of_result ih.2
    exact ⟨hasked.trans ih.1, hnext⟩

end Fanout

/-- The complete build outputs of a legacy record, platform by platform. -/
def Search.LegacyRecord.outputs (record : LegacyRecord) : List Store.Ref :=
  (record.systems.entries.filter fun entry => entry.2.storeHash ≠ "" ∧ entry.2.storeName ≠ "").map
    fun entry => entry.2.storeRef

theorem Draft.wanted_refsOfLegacy (record : Search.LegacyRecord) :
    (Fanout.wanted (refsOfLegacy record)).map Prod.snd = record.outputs := by
  have hcomplete : ∀ entry : String × Search.LegacyEntry,
      entry.2.storeRef.isComplete = decide (entry.2.storeHash ≠ "" ∧ entry.2.storeName ≠ "") := by
    intro entry
    refine Bool.eq_iff_iff.2 ?_
    simp [Store.Ref.isComplete, Search.LegacyEntry.storeRef]
  simp only [Fanout.wanted, refsOfLegacy, List.filter_map, Function.comp_def, List.map_map,
    hcomplete, Search.LegacyRecord.outputs]

namespace Resolver

variable {r : Resolver} {strategy : Strategy} {written version : String}

/-- The call that asks a question, and right behind it what the service does about it. -/
def askTrace (r : Resolver) : Inquiry → List Event
  | .legacy name version _ =>
    .search .legacy name version :: ((r.services.single name version).course false).events
  | .enriched name version =>
    .search .enriched name version :: ((r.services.versioned name version).course false).events
  | .release written => .pin written :: ((r.services.pin written).course false).events

theorem ask_legacy (r : Resolver) (name version : String) (storePaths : Bool) :
    r.ask (.legacy name version storePaths)
      = (Activity.unlessCancelled
          (Activity.note (.search .legacy name version)
              >>= fun _ => r.services.single name version))
        >>= fun answer => pure
          (answer.elim (.error .cancelled) (Draft.ofLegacy r.host name version storePaths)) := by
  rw [ask]
  congr 1
  funext answer
  cases answer <;> rfl

theorem events_ask (r : Resolver) (inquiry : Inquiry) :
    ((r.ask inquiry).course false).events = r.askTrace inquiry := by
  cases inquiry with
  | legacy name version storePaths =>
    rw [ask_legacy, events_bind_pure, Activity.events_unlessCancelled]
    rfl
  | enriched name version => exact congrArg (_ :: ·) (events_bind_pure _ _ _)
  | release written => exact congrArg (_ :: ·) (events_bind_pure _ _ _)

theorem cancelled_ask_legacy (r : Resolver) (name version : String) (storePaths : Bool) :
    ((r.ask (.legacy name version storePaths)).course false).cancelled
      = ((r.services.single name version).course false).cancelled := by
  rw [ask_legacy, Activity.cancelled_bind_pure, Activity.cancelled_unlessCancelled]
  rfl

/-- The record that sends a resolution on to the store: by the legacy protocol and with store paths
wanted, the search service has found it, and its representative platform has an attribute path. -/
structure SendsOn (r : Resolver) (strategy : Strategy) (written version : String)
    (record : Search.LegacyRecord) : Prop where
  versioned : (Spec.parse written).version = some version
  release : (Spec.parse written).isRelease = false
  protocol : strategy.protocol = .legacy
  storePaths : strategy.storePaths = true
  answer : ((r.services.single (Spec.parse written).name version).course false).outcome
    = .returned (.ok record)
  represented : ∃ platform entry, Platform.select r.host record.systems = .ok (platform, entry)
    ∧ entry.attrPaths ≠ []

theorem sendsOn_of_draft {before : Bool} {draft : Draft} {refs : Fanout.Refs}
    (hdraft : r.Drafts strategy written before (.ok draft)) (hrefs : draft.refs = some refs) :
    ∃ version record, r.SendsOn strategy written version record
      ∧ refs = Draft.refsOfLegacy record := by
  obtain ⟨version, hversion, horigin⟩ := origin_of_draft hdraft
  cases horigin with
  | @legacy record hrelease hprotocol hanswer hpackage hlegacy =>
    rw [hlegacy] at hrefs
    split at hrefs
    · next hwanted =>
      obtain ⟨platform, entry, attrPath, rest, hselect, hattrPaths, -⟩ :=
        Draft.packageOfLegacy_eq_ok.1 hpackage
      refine ⟨version, record, ?_, (Option.some.inj hrefs).symm⟩
      exact {
        versioned := hversion
        release := hrelease
        protocol := hprotocol
        storePaths := hwanted
        answer := hanswer
        represented := ⟨platform, entry, hselect, by simp [hattrPaths]⟩ }
    · cases hrefs
  | enriched _ _ _ _ hnone => cases hnone.symm.trans hrefs
  | release _ _ hreference =>
    obtain rfl := Except.ok.inj hreference
    cases hrefs

def Fetches (r : Resolver) (strategy : Strategy) (written : String) (refs : Fanout.Refs) : Prop :=
  ∃ draft, r.Drafts strategy written false (.ok draft) ∧ draft.refs = some refs
    ∧ ((r.draft strategy written).course false).cancelled = false

theorem SendsOn.fetches {record : Search.LegacyRecord}
    (h : r.SendsOn strategy written version record)
    (htoken : ((r.services.single (Spec.parse written).name version).course false).cancelled
      = false) :
    r.Fetches strategy written (Draft.refsOfLegacy record) := by
  obtain ⟨platform, entry, hselect, hattrPaths⟩ := h.represented
  obtain ⟨attrPath, rest, hattrPath⟩ := List.exists_cons_of_ne_nil hattrPaths
  obtain ⟨package, hpackage⟩ : ∃ package,
      Draft.packageOfLegacy r.host (Spec.parse written).name version record = .ok package :=
    ⟨_, Draft.packageOfLegacy_eq_ok.2 ⟨platform, entry, attrPath, rest, hselect, hattrPath, rfl⟩⟩
  have hdraft : r.draft strategy written
      = r.ask (.legacy (Spec.parse written).name version strategy.storePaths) := by
    rw [draft, Inquiry.ofSpec_of_legacy h.versioned h.release h.protocol]
  have hofLegacy : Draft.ofLegacy r.host (Spec.parse written).name version strategy.storePaths
      (.ok record)
      = .ok ⟨package, some (Draft.refsOfLegacy record)⟩ :=
    Draft.ofLegacy_eq_ok.2 ⟨record, rfl, hpackage, by rw [h.storePaths]; rfl⟩
  refine ⟨⟨package, some (Draft.refsOfLegacy record)⟩, ?_, rfl, ?_⟩
  · rw [Drafts, hdraft, ask_legacy]
    refine outcome_bind_eq_returned.2 ⟨some (.ok record), ?_, congrArg Outcome.returned hofLegacy⟩
    exact Activity.outcome_unlessCancelled_eq_some.2 ⟨rfl, h.answer⟩
  · rw [hdraft, cancelled_ask_legacy]
    exact htoken

theorem Fetches.reaches {refs : Fanout.Refs} (h : r.Fetches strategy written refs) :
    ∃ draft, Reaches r strategy (.start [written] false)
      (.single written (.fetching draft (.start r.cacheUrl refs)) false) := by
  obtain ⟨draft, hdraft, hrefs, htoken⟩ := h
  have hstart : Reaches r strategy (.start [written] false)
      (.single written (.ofSpec strategy written) false) := .single (.start (i := 0) rfl)
  rw [Drafts, Resolver.draft] at hdraft
  rw [Resolver.draft] at htoken
  rw [Progress.ofSpec] at hstart
  cases hinquiry : Inquiry.ofSpec strategy (Spec.parse written) with
  | error cause =>
    simp only [hinquiry] at hdraft
    cases Outcome.returned.inj hdraft
  | ok inquiry =>
    simp only [hinquiry] at hstart hdraft htoken
    have hanswer := hstart.tail (.answer (i := 0) rfl hdraft)
    have hfetching : Progress.ofDraft r.cacheUrl (.ok draft)
        = .fetching draft (.start r.cacheUrl refs) := by
      simp only [Progress.ofDraft, hrefs]
    refine ⟨draft, ?_⟩
    rw [hfetching, Batch.single, Bool.false_or, htoken] at hanswer
    exact hanswer

theorem Fetches.exists_trace {refs : Fanout.Refs} (h : r.Fetches strategy written refs) :
    ∃ lookups : Fanout.Lookups, lookups.map Prod.fst = (Fanout.wanted refs).map Prod.snd
      ∧ ((r.resolve strategy written).course false).events
        = ((r.draft strategy written).course false).events ++ r.fanout.trace lookups := by
  obtain ⟨draft, hdraft, hrefs, htoken⟩ := h
  obtain ⟨lookups, hlookups, hevents⟩ := r.fanout.exists_trace_resolve refs
  have hcomplete : ((r.complete draft).course false).events = r.fanout.trace lookups := by
    rw [complete, hrefs, ← hevents]
    exact events_bind_pure _ _ _
  refine ⟨lookups, hlookups, ?_⟩
  rw [resolve, course_bind_of_returned hdraft, htoken, hcomplete]

theorem events_complete_eq_nil {draft : Draft} {token : Bool}
    (h : ∀ refs, draft.refs = some refs → token = true) :
    ((r.complete draft).course token).events = [] := by
  cases hrefs : draft.refs with
  | none => simp only [complete, hrefs, Activity.course_pure]
  | some refs =>
    obtain rfl := h refs hrefs
    simp only [complete, hrefs]
    rfl

theorem events_resolve_of_not_fetches (h : ∀ refs, ¬r.Fetches strategy written refs) :
    ((r.resolve strategy written).course false).events
      = ((r.draft strategy written).course false).events := by
  cases houtcome : ((r.draft strategy written).course false).outcome with
  | panicked => exact events_bind_of_ended (by simp [houtcome])
  | unanswered => exact events_bind_of_ended (by simp [houtcome])
  | returned drafted =>
    rw [resolve, course_bind_of_returned houtcome]
    cases drafted with
    | error cause => exact List.append_nil _
    | ok draft =>
      have htoken : ∀ refs, draft.refs = some refs →
          ((r.draft strategy written).course false).cancelled = true := by
        intro refs hrefs
        cases htoken : ((r.draft strategy written).course false).cancelled with
        | true => rfl
        | false => exact absurd ⟨draft, houtcome, hrefs, htoken⟩ (h refs)
      simp only [events_complete_eq_nil htoken, List.append_nil]

theorem Fetches.error {refs : Fanout.Refs} {cause : Error} (h : r.Fetches strategy written refs)
    (hresult : ((r.resolve strategy written).course false).outcome = .returned (.error cause)) :
    cause = .cancelled ∨ ∃ problem, cause = .fanout problem := by
  obtain ⟨draft, hdraft, hrefs, -⟩ := h
  obtain ⟨drafted, hother, hrest⟩ := outcome_bind_eq_returned.1 hresult
  obtain rfl := Outcome.returned.inj (hdraft.symm.trans hother)
  simp only [complete, hrefs] at hrest
  obtain ⟨paths, hpaths, hfinish⟩ := outcome_bind_eq_returned.1 hrest
  cases paths with
  | ok m => cases Outcome.returned.inj hfinish
  | error other =>
    obtain rfl := Except.error.inj (Outcome.returned.inj hfinish)
    exact (Fanout.resolve_eq_error hpaths).imp_left And.left

theorem events_draft {inquiry : Inquiry}
    (hinquiry : Inquiry.ofSpec strategy (Spec.parse written) = .ok inquiry) :
    ((r.draft strategy written).course false).events = r.askTrace inquiry := by
  rw [draft, hinquiry]
  exact events_ask r inquiry

theorem events_resolve_of_alone {inquiry : Inquiry}
    (hinquiry : Inquiry.ofSpec strategy (Spec.parse written) = .ok inquiry)
    (halone : (Spec.parse written).isRelease = true ∨ strategy.protocol = .enriched) :
    ((r.resolve strategy written).course false).events = r.askTrace inquiry := by
  rw [events_resolve_of_not_fetches, events_draft hinquiry]
  rintro refs ⟨draft, hdraft, hrefs, -⟩
  obtain ⟨version, record, hsends, -⟩ := sendsOn_of_draft hdraft hrefs
  rcases halone with hrelease | hprotocol
  · cases hrelease.symm.trans hsends.release
  · cases hprotocol.symm.trans hsends.protocol

theorem exists_trace_legacy (hversion : (Spec.parse written).version = some version)
    (hrelease : (Spec.parse written).isRelease = false) (hprotocol : strategy.protocol = .legacy) :
    ∃ lookups : Fanout.Lookups,
      ((r.resolve strategy written).course false).events
        = .search .legacy (Spec.parse written).name version
          :: (((r.services.single (Spec.parse written).name version).course false).events
            ++ r.fanout.trace lookups)
      ∧ (lookups ≠ [] → ∃ record, r.SendsOn strategy written version record
        ∧ lookups.map Prod.fst = record.outputs)
      ∧ (∀ record, r.SendsOn strategy written version record →
        ((r.services.single (Spec.parse written).name version).course false).cancelled = false →
        lookups.map Prod.fst = record.outputs)
      ∧ ∀ cause, ((r.resolve strategy written).course false).outcome = .returned (.error cause) →
        lookups = [] ∨ cause = .cancelled ∨ ∃ problem, cause = .fanout problem := by
  have hdraft := events_draft (r := r) (Inquiry.ofSpec_of_legacy hversion hrelease hprotocol)
  -- Without a fan-out there are no lookups, and a record that sends the resolution on leads to one.
  by_cases hfetches : ∃ refs, r.Fetches strategy written refs
  · obtain ⟨refs, hfetches⟩ := hfetches
    obtain ⟨lookups, hlookups, hevents⟩ := hfetches.exists_trace
    have hfailed : ∀ cause,
        ((r.resolve strategy written).course false).outcome = .returned (.error cause) →
        cause = .cancelled ∨ ∃ problem, cause = .fanout problem := fun _ => hfetches.error
    obtain ⟨draft, hok, hrefs, -⟩ := hfetches
    obtain ⟨other, found, hfound, rfl⟩ := sendsOn_of_draft hok hrefs
    obtain rfl := Option.some.inj (hversion.symm.trans hfound.versioned)
    rw [Draft.wanted_refsOfLegacy] at hlookups
    refine ⟨lookups, by rw [hevents, hdraft]; rfl, fun _ => ⟨found, hfound, hlookups⟩, ?_,
      fun cause hcause => .inr (hfailed cause hcause)⟩
    intro record hsends htoken
    obtain rfl := Except.ok.inj (Outcome.returned.inj (hfound.answer.symm.trans hsends.answer))
    exact hlookups
  · have hnot : ∀ refs, ¬r.Fetches strategy written refs := fun refs h => hfetches ⟨refs, h⟩
    refine ⟨[], ?_, fun h => absurd rfl h, ?_, fun _ _ => .inl rfl⟩
    · rw [events_resolve_of_not_fetches hnot, hdraft]
      exact (List.append_nil _).symm
    · intro record hsends htoken
      exact absurd (hsends.fetches htoken) (hnot _)

/-- The lookup of a build output may panic. -/
def MayPanic (r : Resolver) (ref : Store.Ref) : Prop :=
  ∃ before after, r.fanout.behaviour ref r.cacheUrl before after .panicked

/-- What a resolver asks the store about the build outputs of a record. -/
def questions (r : Resolver) (record : Search.LegacyRecord) : List (Store.Ref × String) :=
  record.outputs.map fun ref => (ref, r.cacheUrl)

/-- Whatever the order of steps, the store is asked for nothing but the complete build outputs of
the record, each at most once, and for all of them if no lookup panics. -/
theorem asked_of_reaches {specs : List String} {cancelled : Bool} {batch : Batch} {draft : Draft}
    {fanout : Fanout.Progress} (hrun : Reaches r strategy (.start specs cancelled) batch)
    (hspec : (written, .fetching draft fanout) ∈ batch.specs) :
    ∃ version record, r.SendsOn strategy written version record
      ∧ fanout.asked.Subperm (r.questions record)
      ∧ (batch.cancelled = false → (∀ ref ∈ record.outputs, ¬r.MayPanic ref) →
        (fanout.result ≠ none → fanout.asked.Perm (r.questions record))
        ∧ Inevitable (Fanout.Advances r.fanout.behaviour)
          (fun later => later.asked.Perm (r.questions record)) fanout)
      ∧ ∀ result, fanout.result = some result →
        (∃ m, result = .ok m) ∧ fanout.asked.Perm (r.questions record)
          ∨ result = .error .cancelled ∧ batch.cancelled = true
          ∨ (∃ problem, result = .error (.fanout problem))
            ∧ ∃ ref ∈ record.outputs, r.MayPanic ref := by
  obtain ⟨before, first, refs, -, hdraft, hrefs, hfanout⟩ :=
    (AllTraced.start r strategy specs cancelled).run hrun _ hspec
  obtain ⟨version, record, hsends, rfl⟩ := sendsOn_of_draft hdraft hrefs
  have hnodup := Draft.nodup_refsOfLegacy record
  have hsound := (Fanout.Sound.start _ _ _ first).run hnodup hfanout
  have hquestions :
      ((Fanout.wanted (Draft.refsOfLegacy record)).map fun entry => (entry.2, r.cacheUrl))
      = r.questions record := by
    rw [questions, ← Draft.wanted_refsOfLegacy, List.map_map]
    rfl
  have houtput : ∀ entry ∈ Fanout.wanted (Draft.refsOfLegacy record), entry.2 ∈ record.outputs := by
    intro entry hentry
    rw [← Draft.wanted_refsOfLegacy]
    exact List.mem_map_of_mem hentry
  have hend : ∀ result, fanout.result = some result →
      (∃ m, result = .ok m) ∧ fanout.asked.Perm (r.questions record)
        ∨ result = .error .cancelled ∧ batch.cancelled = true
        ∨ (∃ problem, result = .error (.fanout problem))
          ∧ ∃ ref ∈ record.outputs, r.MayPanic ref := by
    intro result hresult
    rcases hsound.ended_cases hresult with
      ⟨hfound, hasked⟩ | hcancelled | ⟨hbroken, entry, hentry, hpanics⟩
    · exact .inl ⟨hfound, hquestions ▸ hasked⟩
    · exact .inr (.inl hcancelled)
    · exact .inr (.inr ⟨hbroken, entry.2, houtput entry hentry, hpanics⟩)
  refine ⟨version, record, hsends, hquestions ▸ hsound.asked_subperm, ?_, hend⟩
  intro hcalm hnever
  constructor
  · intro hresult
    obtain ⟨result, hresult⟩ := Option.ne_none_iff_exists'.1 hresult
    rcases hend result hresult with ⟨-, hasked⟩ | ⟨-, htoken⟩ | ⟨-, ref, href, hpanic⟩
    · exact hasked
    · cases hcalm.symm.trans htoken
    · exact absurd hpanic (hnever ref href)
  · rw [hcalm] at hsound
    have hinevitable := hsound.inevitable_asked hnodup fun entry hentry before after hpanic =>
      hnever entry.2 (houtput entry hentry) ⟨before, after, hpanic⟩
    rw [hquestions] at hinevitable
    exact hinevitable

/-- The spec and the strategy decide whom a resolution calls. Without a version it calls nobody. A
released binary is asked of the release service alone, once, by the text of the spec. Everything
else is asked of the search service once, by name and version and in the protocol of the strategy,
and never of the release service. The store is called only for a record that sends the resolution
on, and not at all before any other failure than a cancellation or one of the fan-out. Carried out
in turn, it is called once for each complete build output; in any order, at most once for each, and
once for each as long as no lookup panics and nobody cancels. -/
theorem calls_of_resolve (r : Resolver) (strategy : Strategy) (written : String) :
    ((Spec.parse written).version = none →
      (r.resolve strategy written).course false
        = ⟨[], false, .returned (.error (.missingVersion (Spec.parse written).name))⟩)
    ∧ (∀ version, (Spec.parse written).version = some version →
      ((Spec.parse written).isRelease = true →
        ((r.resolve strategy written).course false).events
          = .pin (Spec.parse written).raw
            :: ((r.services.pin (Spec.parse written).raw).course false).events)
      ∧ ((Spec.parse written).isRelease = false → strategy.protocol = .enriched →
        ((r.resolve strategy written).course false).events
          = .search .enriched (Spec.parse written).name version
            :: ((r.services.versioned (Spec.parse written).name version).course false).events)
      ∧ ((Spec.parse written).isRelease = false → strategy.protocol = .legacy →
        ∃ lookups : Fanout.Lookups,
          ((r.resolve strategy written).course false).events
            = .search .legacy (Spec.parse written).name version
              :: (((r.services.single (Spec.parse written).name version).course false).events
                ++ r.fanout.trace lookups)
          ∧ (lookups ≠ [] → ∃ record, r.SendsOn strategy written version record
            ∧ lookups.map Prod.fst = record.outputs)
          ∧ (∀ record, r.SendsOn strategy written version record →
            ((r.services.single (Spec.parse written).name version).course false).cancelled = false →
            lookups.map Prod.fst = record.outputs)
          ∧ ∀ cause, ((r.resolve strategy written).course false).outcome
            = .returned (.error cause) →
            lookups = [] ∨ cause = .cancelled ∨ ∃ problem, cause = .fanout problem))
    ∧ ∀ specs cancelled batch draft fanout, Reaches r strategy (.start specs cancelled) batch →
      (written, .fetching draft fanout) ∈ batch.specs →
      ∃ version record, r.SendsOn strategy written version record
        ∧ fanout.asked.Subperm (r.questions record)
        ∧ (batch.cancelled = false → (∀ ref ∈ record.outputs, ¬r.MayPanic ref) →
          (fanout.result ≠ none → fanout.asked.Perm (r.questions record))
          ∧ Inevitable (Fanout.Advances r.fanout.behaviour)
            (fun later => later.asked.Perm (r.questions record)) fanout)
        ∧ ∀ result, fanout.result = some result →
          (∃ m, result = .ok m) ∧ fanout.asked.Perm (r.questions record)
            ∨ result = .error .cancelled ∧ batch.cancelled = true
            ∨ (∃ problem, result = .error (.fanout problem))
              ∧ ∃ ref ∈ record.outputs, r.MayPanic ref := by
  refine ⟨fun hnone => ?_,
    fun version hversion => ⟨fun hrelease => ?_, fun hrelease hprotocol => ?_,
    fun hrelease hprotocol => exists_trace_legacy hversion hrelease hprotocol⟩,
    fun specs cancelled batch draft fanout hrun hspec => asked_of_reaches hrun hspec⟩
  · have hinquiry : Inquiry.ofSpec strategy (Spec.parse written)
        = .error (.missingVersion (Spec.parse written).name) := by
      rw [Inquiry.ofSpec, hnone]
    rw [resolve, draft, hinquiry]
    rfl
  · exact events_resolve_of_alone (Inquiry.ofSpec_of_release hversion hrelease) (.inl hrelease)
  · exact events_resolve_of_alone (Inquiry.ofSpec_of_enriched hversion hrelease hprotocol)
      (.inr hprotocol)

def lostResolver : Resolver :=
  { smallResolver with
    services := { smallResolver.services with single := fun _ _ => pure (.error .notFound) } }

private theorem sendsOn_smallResolver :
    smallResolver.SendsOn ⟨.legacy, true⟩ "n@1" "1" threePlatforms where
  versioned := by decide +kernel
  release := by decide +kernel
  protocol := rfl
  storePaths := rfl
  answer := rfl
  represented := ⟨"x86_64-linux", ⟨["n"], "c0ffee", 1688055638, "1", "a", "n", ""⟩,
    by decide +kernel, by decide⟩

private theorem outputs_threePlatforms : threePlatforms.outputs = [⟨"a", "n"⟩, ⟨"b", "n"⟩] := by
  decide +kernel

/-- Each kind of spec calls its own services; of three platforms, the two with a complete build
output are looked up, and none if the search service finds nothing. -/
theorem calls_of_resolve_smallResolver :
    (smallResolver.resolve ⟨.legacy, true⟩ "n").course false
        = ⟨[], false, .returned (.error (.missingVersion "n"))⟩
      ∧ ((smallResolver.resolve ⟨.legacy, true⟩ " runx:a/b@1").course false).events
        = [.pin "runx:a/b@1"]
      ∧ ((smallResolver.resolve ⟨.enriched, true⟩ "n@1").course false).events
        = [.search .enriched "n" "1"]
      ∧ (∃ lookups, ((smallResolver.resolve ⟨.legacy, true⟩ "n@1").course false).events
          = .search .legacy "n" "1" :: smallResolver.fanout.trace lookups
        ∧ lookups.map Prod.fst = [⟨"a", "n"⟩, ⟨"b", "n"⟩])
      ∧ ((lostResolver.resolve ⟨.legacy, true⟩ "n@1").course false).events
        = [.search .legacy "n" "1"]
      ∧ ∃ batch draft fanout m, Reaches smallResolver ⟨.legacy, true⟩ (.start ["n@1"] false) batch
        ∧ ("n@1", .fetching draft fanout) ∈ batch.specs ∧ batch.cancelled = false
        ∧ (∀ ref ∈ threePlatforms.outputs, ¬smallResolver.MayPanic ref)
        ∧ fanout.result = some (.ok m)
        ∧ fanout.asked.Perm [(⟨"a", "n"⟩, smallResolver.cacheUrl),
            (⟨"b", "n"⟩, smallResolver.cacheUrl)] := by
  have hname : (Spec.parse "n@1").name = "n" := by decide +kernel
  have hversion : (Spec.parse "n@1").version = some "1" := by decide +kernel
  have hrelease : (Spec.parse "n@1").isRelease = false := by decide +kernel
  refine ⟨?_, ?_, ?_, ?_, ?_, ?_⟩
  · have hcourse := (calls_of_resolve smallResolver ⟨.legacy, true⟩ "n").1 (by decide +kernel)
    have hlone : (Spec.parse "n").name = "n" := by decide +kernel
    rw [hcourse, hlone]
  · have hraw : (Spec.parse " runx:a/b@1").raw = "runx:a/b@1" := by decide +kernel
    rw [((calls_of_resolve smallResolver ⟨.legacy, true⟩ " runx:a/b@1").2.1 "1"
      (by decide +kernel)).1
      (by decide +kernel), hraw]
    rfl
  · rw [((calls_of_resolve smallResolver ⟨.enriched, true⟩ "n@1").2.1 "1" hversion).2.1 hrelease
      rfl, hname]
    rfl
  · obtain ⟨lookups, hevents, -, houtputs, -⟩ :=
      ((calls_of_resolve smallResolver ⟨.legacy, true⟩ "n@1").2.1 "1" hversion).2.2 hrelease rfl
    rw [hname] at hevents
    exact ⟨lookups, hevents, (houtputs _ sendsOn_smallResolver rfl).trans outputs_threePlatforms⟩
  · obtain ⟨lookups, hevents, -, -, hfailed⟩ :=
      ((calls_of_resolve lostResolver ⟨.legacy, true⟩ "n@1").2.1 "1" hversion).2.2 hrelease rfl
    have hlost : ((lostResolver.resolve ⟨.legacy, true⟩ "n@1").course false).outcome
        = .returned (.error (.packageNotFound "n" "1")) := by decide +kernel
    obtain rfl : lookups = [] := by simpa using hfailed _ hlost
    rw [hevents, hname]
    rfl
  · obtain ⟨draft, hreach⟩ := (sendsOn_smallResolver.fetches rfl).reaches
    have hkeeps : smallResolver.fanout.KeepsToken := fun _ _ => Activity.keepsToken_pure _
    have hstore : smallResolver.fanout.Answers Fanout.smallAnswer :=
      fun _ _ => Activity.returns_pure _
    obtain ⟨q, hfanout, hresult⟩ := Fanout.reaches_resolve hkeeps _
      (Fanout.returns_resolve hstore (Draft.refsOfLegacy threePlatforms)).outcome
    have hrun : Reaches smallResolver ⟨.legacy, true⟩ (.start ["n@1"] false)
        (.single "n@1" (.fetching draft q) _) := hreach.trans (reaches_fetch hfanout)
    have hcalm :
        ((smallResolver.fanout.resolve (Draft.refsOfLegacy threePlatforms)).course false).cancelled
        = false := (Fanout.returns_resolve hstore _).token
    have hnever : ∀ ref ∈ threePlatforms.outputs, ¬smallResolver.MayPanic ref := by
      rintro ref - ⟨before, after, -, hpanic⟩
      cases hpanic
    obtain ⟨version, record, hsends, -, hall, -⟩ :=
      (calls_of_resolve smallResolver ⟨.legacy, true⟩ "n@1").2.2
      ["n@1"] false _ draft q hrun (List.mem_singleton_self _)
    obtain rfl : threePlatforms = record := Except.ok.inj (Outcome.returned.inj hsends.answer)
    refine ⟨_, draft, q, _, hrun, List.mem_singleton_self _, hcalm, hnever, hresult, ?_⟩
    have hasked := (hall hcalm hnever).1 (by simp [hresult])
    rw [questions, outputs_threePlatforms] at hasked
    exact hasked

/-- The small resolver with a store that panics over one of two build outputs. -/
def panickyResolver : Resolver :=
  { smallResolver with
    services :=
      { smallResolver.services with
        lookup := fun ref _ =>
          if ref.hash = "a" then Activity.ended .panicked else pure (.ok "/nix/store/b-n") } }

private theorem sendsOn_panickyResolver :
    panickyResolver.SendsOn ⟨.legacy, true⟩ "n@1" "1" threePlatforms where
  versioned := by decide +kernel
  release := by decide +kernel
  protocol := rfl
  storePaths := rfl
  answer := rfl
  represented := ⟨"x86_64-linux", ⟨["n"], "c0ffee", 1688055638, "1", "a", "n", ""⟩,
    by decide +kernel, by decide⟩

/-- A fan-out that hears of a panic before its other task has started gives that task up: nobody has
cancelled, the record sends the resolution on, and one of its two complete build outputs is never
asked about. -/
theorem unasked_after_panic :
    panickyResolver.SendsOn ⟨.legacy, true⟩ "n@1" "1" threePlatforms
      ∧ ∃ batch draft fanout problem,
        Reaches panickyResolver ⟨.legacy, true⟩ (.start ["n@1"] false) batch
          ∧ batch.cancelled = false
        ∧ ("n@1", .fetching draft fanout) ∈ batch.specs
        ∧ fanout.result = some (.error (.fanout problem))
        ∧ ⟨"b", "n"⟩ ∈ threePlatforms.outputs
        ∧ ∀ later, Fanout.Reaches panickyResolver.fanout.behaviour (false, fanout) later →
          (⟨"b", "n"⟩, panickyResolver.cacheUrl) ∉ later.2.asked := by
  obtain ⟨draft, hreach⟩ := (sendsOn_panickyResolver.fetches rfl).reaches
  let url := panickyResolver.cacheUrl
  let b := panickyResolver.fanout.behaviour
  let first : Fanout.Job := ⟨"x86_64-linux", ⟨"a", "n"⟩, url, .ready⟩
  let second : Fanout.Job := ⟨"aarch64-linux", ⟨"b", "n"⟩, url, .ready⟩
  let p := Fanout.Progress.start url (Draft.refsOfLegacy threePlatforms)
  have hwanted : Fanout.wanted (Draft.refsOfLegacy threePlatforms)
      = [("x86_64-linux", ⟨"a", "n"⟩), ("aarch64-linux", ⟨"b", "n"⟩)] := by decide +kernel
  have hjobs : p.jobs = [] ++ first :: [second] := by
    simp only [p, Fanout.Progress.start, hwanted]
    rfl
  have hpanics : b ⟨"a", "n"⟩ url false false .panicked := ⟨rfl, rfl⟩
  -- The first task asks and panics, and the fan-out takes notice of it.
  let asking := p.enter [] first [second] .asking
  let panicked := asking.enter [] (first.enter .asking) [second] .panicked
  have hask : Fanout.Step b (false, p) (false, asking) := .work rfl hjobs (.ask rfl)
  have hpanic : Fanout.Step b (false, asking) (false, panicked) :=
    .work rfl rfl (.panic rfl hpanics)
  have hlook : Fanout.Step b (false, panicked) (false, { panicked with looked := true }) :=
    .look rfl
  have hbreak : Fanout.Step b (false, { panicked with looked := true })
      (false,
        { panicked with looked := true, result := some (.error (.fanout "task panicked")) }) :=
    .breakDown rfl rfl List.mem_cons_self rfl
  have hrun := (((Relation.ReflTransGen.single hask).tail hpanic).tail hlook).tail hbreak
  refine ⟨sendsOn_panickyResolver, _, draft, _, _, hreach.trans (reaches_fetch hrun), rfl,
    List.mem_singleton_self _, rfl, ?_, ?_⟩
  · rw [outputs_threePlatforms]
    exact List.mem_cons_of_mem _ (List.mem_singleton_self _)
  · intro later hlater
    rw [hlater.asked_of_result rfl]
    simp [panicked, asking, p, first, Fanout.Progress.enter, Fanout.Progress.askedWith,
      Fanout.Progress.start]

end Resolver

end Pinning
