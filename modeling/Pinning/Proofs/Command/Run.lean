import Pinning.Command.Run
import Pinning.Proofs.Files
import Pinning.Proofs.Resolver.Served
import Pinning.Proofs.Resolver.Together
/-!
What the command to resolve says about its specs. Either it is stopped before anything is asked, or
it accounts for every spec: a spec that resolves is in the report, one that does not has a line of
its own, and the exit code is the greatest of theirs.
-/

set_option autoImplicit false
set_option relaxedAutoImplicit false

namespace Pinning.Command

open Http (Network)
open Resolver (except_bind_eq_ok)

variable {network : Network} {files : Files} {options : Resolve} {r : Resolver}
  {strategy : Strategy}

section Preparation

/-- The command is stopped by this error: the configuration cannot be loaded, or else the protocol
is not known, or else the services cannot be asked. -/
inductive Stopped (network : Network) (files : Files) (options : Resolve) : Error → Prop
  | config {cause : Error} (hconfig : Config.load files options.config = .error cause) :
      Stopped network files options cause
  | protocol {config : Config} {written : String}
      (hconfig : Config.load files options.config = .ok config)
      (hwritten : options.protocol = some written) (hunknown : Protocol.meant? written = none) :
      Stopped network files options (.config ("unknown protocol '" ++ written ++ "'"))
  | resolver {config : Config} {strategy : Strategy} {cause : Error}
      (hconfig : Config.load files options.config = .ok config)
      (hstrategy : strategyOf options config = .ok strategy)
      (hresolver : Resolver.ofConfig config network = .error cause) :
      Stopped network files options cause

/-- The resolver and the strategy that the command resolves with. -/
structure Prepared (network : Network) (files : Files) (options : Resolve) (config : Config)
    (r : Resolver) (strategy : Strategy) : Prop where
  loads : Config.load files options.config = .ok config
  chooses : strategyOf options config = .ok strategy
  builds : Resolver.ofConfig config network = .ok r

theorem strategyOf_eq_error {config : Config} {cause : Error} :
    strategyOf options config = .error cause ↔ ∃ written, options.protocol = some written
      ∧ Protocol.meant? written = none
      ∧ cause = .config ("unknown protocol '" ++ written ++ "'") := by
  cases hprotocol : options.protocol with
  | none => simp [strategyOf, hprotocol, bind, Except.bind, pure, Except.pure]
  | some written =>
    cases hmeant : Protocol.meant? written with
    | none => simp [strategyOf, hprotocol, hmeant, bind, Except.bind, eq_comm]
    | some protocol => simp [strategyOf, hprotocol, hmeant, bind, Except.bind, pure, Except.pure]

theorem except_bind_eq_error {α β : Type} {x : Except Error α} {f : α → Except Error β}
    {cause : Error} :
    (x >>= f) = .error cause ↔ x = .error cause ∨ ∃ a, x = .ok a ∧ f a = .error cause := by
  cases x with
  | error other => simp [bind, Except.bind]
  | ok a => simp [bind, Except.bind]

theorem prepare_eq_ok : prepare network files options = .ok (r, strategy)
    ↔ ∃ config, Prepared network files options config r strategy := by
  constructor
  · intro h
    obtain ⟨config, hconfig, hrest⟩ := except_bind_eq_ok.1 h
    obtain ⟨other, hstrategy, hrest⟩ := except_bind_eq_ok.1 hrest
    obtain ⟨resolver, hresolver, hpair⟩ := except_bind_eq_ok.1 hrest
    obtain ⟨rfl, rfl⟩ := Prod.mk.inj (Except.ok.inj hpair)
    exact ⟨config, hconfig, hstrategy, hresolver⟩
  · rintro ⟨config, hconfig, hstrategy, hresolver⟩
    exact except_bind_eq_ok.2
      ⟨_, hconfig, except_bind_eq_ok.2 ⟨_, hstrategy, except_bind_eq_ok.2 ⟨_, hresolver, rfl⟩⟩⟩

theorem prepare_eq_error {cause : Error} :
    prepare network files options = .error cause ↔ Stopped network files options cause := by
  constructor
  · intro h
    rcases except_bind_eq_error.1 h with hconfig | ⟨config, hconfig, hrest⟩
    · exact .config hconfig
    rcases except_bind_eq_error.1 hrest with hprotocol | ⟨strategy, hstrategy, hrest⟩
    · obtain ⟨written, hwritten, hunknown, rfl⟩ := strategyOf_eq_error.1 hprotocol
      exact .protocol hconfig hwritten hunknown
    rcases except_bind_eq_error.1 hrest with hresolver | ⟨r, hresolver, hpair⟩
    · exact .resolver hconfig hstrategy hresolver
    · cases hpair
  · intro h
    cases h with
    | config hconfig => exact except_bind_eq_error.2 (.inl hconfig)
    | @protocol config written hconfig hwritten hunknown =>
      have hprotocol : strategyOf options config
          = .error (.config ("unknown protocol '" ++ written ++ "'")) :=
        strategyOf_eq_error.2 ⟨written, hwritten, hunknown, rfl⟩
      exact except_bind_eq_error.2 (.inr ⟨_, hconfig, except_bind_eq_error.2 (.inl hprotocol)⟩)
    | resolver hconfig hstrategy hresolver =>
      refine except_bind_eq_error.2
        (.inr ⟨_, hconfig, except_bind_eq_error.2 (.inr ⟨_, hstrategy, ?_⟩)⟩)
      exact except_bind_eq_error.2 (.inl hresolver)

theorem exists_prepared (h : ∀ cause, ¬Stopped network files options cause) :
    ∃ config r strategy, Prepared network files options config r strategy := by
  cases hprepare : prepare network files options with
  | error cause => exact absurd (prepare_eq_error.1 hprepare) (h cause)
  | ok prepared =>
    obtain ⟨config, hprepared⟩ := prepare_eq_ok.1 hprepare
    exact ⟨config, prepared.1, prepared.2, hprepared⟩

end Preparation

section Reports

def causeOf : Except Error Package → Option Error
  | .ok _ => none
  | .error cause => some cause

def resolvedOf (specs : List String) (result : String → Except Error Package) : List Resolution :=
  specs.filterMap fun spec => (result spec).toOption.map fun package => { spec, package }

def causesOf (specs : List String) (result : String → Except Error Package) : List Error :=
  specs.filterMap fun spec => causeOf (result spec)

/-- The code is 0 if every spec resolves, and else the greatest among the codes of the errors. -/
structure IsExitCode (specs : List String) (result : String → Except Error Package) (code : Nat) :
    Prop where
  zero_iff : code = 0 ↔ ∀ spec ∈ specs, ∃ package, result spec = .ok package
  le : ∀ spec ∈ specs, ∀ cause, result spec = .error cause → cause.exitCode ≤ code
  attained : code = 0 ∨ ∃ spec ∈ specs, ∃ cause, result spec = .error cause ∧ cause.exitCode = code

theorem exitCode_pos (cause : Error) : 0 < cause.exitCode := by
  cases cause <;> simp [Error.exitCode]

private theorem foldl_exitCode (causes : List Error) (code : Nat) {last : Nat}
    (h : causes.foldl (fun code cause => max code cause.exitCode) code = last) :
    code ≤ last ∧ (∀ cause ∈ causes, cause.exitCode ≤ last)
      ∧ (last = code ∨ ∃ cause ∈ causes, cause.exitCode = last) := by
  induction causes generalizing code with
  | nil =>
    obtain rfl : code = last := h
    exact ⟨Nat.le_refl _, by simp, .inl rfl⟩
  | cons cause rest ih =>
    obtain ⟨hle, hall, hlast⟩ := ih (max code cause.exitCode) h
    refine ⟨by omega, fun other hother => ?_, ?_⟩
    · rcases List.mem_cons.1 hother with rfl | hother
      · omega
      · exact hall other hother
    · rcases hlast with hlast | ⟨other, hother, hcode⟩
      · by_cases hgreater : code < cause.exitCode
        · exact .inr ⟨cause, List.mem_cons_self, by omega⟩
        · exact .inl (by omega)
      · exact .inr ⟨other, List.mem_cons_of_mem _ hother, hcode⟩

theorem mem_causesOf {specs : List String} {result : String → Except Error Package}
    {cause : Error} :
    cause ∈ causesOf specs result ↔ ∃ spec ∈ specs, result spec = .error cause := by
  have hcause : ∀ value : Except Error Package, causeOf value = some cause
      ↔ value = .error cause := by
    intro value
    cases value <;> simp [causeOf]
  simp only [causesOf, List.mem_filterMap, hcause]

theorem isExitCode_exitCodeOf (specs : List String) (result : String → Except Error Package) :
    IsExitCode specs result (exitCodeOf (causesOf specs result)) := by
  obtain ⟨-, hle, hlast⟩ := foldl_exitCode (causesOf specs result) 0 rfl
  rw [← exitCodeOf] at hle hlast
  have hattained : exitCodeOf (causesOf specs result) = 0 ∨ ∃ spec ∈ specs, ∃ cause,
      result spec = .error cause ∧ cause.exitCode = exitCodeOf (causesOf specs result) := by
    rcases hlast with hzero | ⟨cause, hcause, hcode⟩
    · exact .inl hzero
    · obtain ⟨spec, hspec, hresult⟩ := mem_causesOf.1 hcause
      exact .inr ⟨spec, hspec, cause, hresult, hcode⟩
  have hbound : ∀ spec ∈ specs, ∀ cause, result spec = .error cause →
      cause.exitCode ≤ exitCodeOf (causesOf specs result) :=
    fun spec hspec cause hresult => hle cause (mem_causesOf.2 ⟨spec, hspec, hresult⟩)
  refine ⟨⟨fun hzero spec hspec => ?_, fun hall => ?_⟩, hbound, hattained⟩
  · cases hresult : result spec with
    | ok package => exact ⟨package, rfl⟩
    | error cause =>
      have hcode := hbound spec hspec cause hresult
      have hpos := exitCode_pos cause
      omega
  · rcases hattained with hzero | ⟨spec, hspec, cause, hresult, -⟩
    · exact hzero
    · obtain ⟨package, hpackage⟩ := hall spec hspec
      cases hresult.symm.trans hpackage

/-- What the command says about its specs, given what each of them comes to: the report on those
that resolve, on the standard output or in the file that is asked for, and a line for each of the
others. A file that cannot be written has a line as well. -/
inductive Accounts (files : Files) (options : Resolve) (result : String → Except Error Package) :
    Ending → Prop
  | printed {code : Nat} (houtput : options.output = none)
      (hcode : IsExitCode options.specs result code) :
      Accounts files options result {
        exitCode := code
        output := Report.render (formatOf options.format).1 (resolvedOf options.specs result)
        errors := (formatOf options.format).2
          ++ String.join ((causesOf options.specs result).map errorLine)
        files }
  | written {path : String} {after : Files} {code : Nat} (houtput : options.output = some path)
      (hwrite : files.write path (Text.utf8Bytes
        (Report.render (formatOf options.format).1 (resolvedOf options.specs result)).toList)
          = .ok after)
      (hread : after.read path = .ok (Text.utf8Bytes
        (Report.render (formatOf options.format).1 (resolvedOf options.specs result)).toList))
      (hcode : IsExitCode options.specs result code) :
      Accounts files options result {
        exitCode := code
        output := ""
        errors := (formatOf options.format).2
          ++ String.join ((causesOf options.specs result).map errorLine)
        files := after }
  | unwritable {path : String} {problem : Files.Problem} (houtput : options.output = some path)
      (hwrite : files.write path (Text.utf8Bytes
        (Report.render (formatOf options.format).1 (resolvedOf options.specs result)).toList)
          = .error problem) :
      Accounts files options result {
        exitCode := 2
        output := ""
        errors := (formatOf options.format).2
          ++ String.join ((causesOf options.specs result).map errorLine)
          ++ errorLine problem.error
        files }

/-- The ending of the command, given the results of its specs. -/
def endingOf (files : Files) (options : Resolve) (results : List (String × Except Error Package)) :
    Ending :=
  deliver files options.output (formatOf options.format).2 (failures results)
    (Report.render (formatOf options.format).1 (resolutions results))

theorem accounts_endingOf {results : List (String × Except Error Package)}
    {result : String → Except Error Package} (hspecs : results.map Prod.fst = options.specs)
    (hresults : ∀ entry ∈ results, result entry.1 = entry.2) :
    Accounts files options result (endingOf files options results) := by
  have hpairs : results = options.specs.map fun spec => (spec, result spec) := by
    rw [← hspecs, List.map_map]
    calc results = results.map id := (List.map_id results).symm
      _ = results.map ((fun spec => (spec, result spec)) ∘ Prod.fst) :=
        List.map_congr_left fun entry hentry => Prod.ext rfl (hresults entry hentry).symm
  have hresolved : resolutions results = resolvedOf options.specs result := by
    rw [hpairs, resolutions, List.filterMap_map]
    refine List.filterMap_congr fun spec _ => ?_
    cases hresult : result spec <;> simp [hresult, Except.toOption]
  have hcauses : failures results = causesOf options.specs result := by
    rw [hpairs, failures, List.filterMap_map]
    refine List.filterMap_congr fun spec _ => ?_
    cases hresult : result spec <;> simp [hresult, causeOf]
  have hcode := isExitCode_exitCodeOf options.specs result
  rw [endingOf, hresolved, hcauses]
  cases houtput : options.output with
  | none => exact .printed houtput hcode
  | some path =>
    simp only [deliver]
    split
    · next after hwrite => exact .written houtput hwrite (Files.read_of_write hwrite) hcode
    · next problem hwrite => exact .unwritable houtput hwrite

end Reports

section Run

theorem run_of_stopped {cause : Error} (h : Stopped network files options cause) :
    run network files (.resolve options)
      = pure (.ofError files (formatOf options.format).2 cause) := by
  have hprepare := prepare_eq_error.2 h
  simp only [run, runResolve, hprepare]

theorem run_of_prepared {config : Config} (h : Prepared network files options config r strategy) :
    run network files (.resolve options)
      = r.resolveAll strategy options.specs
        >>= fun results => pure (endingOf files options results) := by
  have hprepare := prepare_eq_ok.2 ⟨config, h⟩
  simp only [run, runResolve, hprepare]
  rfl

theorem returns_run {config : Config} (h : Prepared network files options config r strategy)
    {results : List (String × Except Error Package)}
    (hresults : (r.resolveAll strategy options.specs).Returns results) :
    (run network files (.resolve options)).Returns (endingOf files options results) := by
  rw [run_of_prepared h]
  exact hresults.bind (Activity.returns_pure _)

private theorem exists_result (r : Resolver) (strategy : Strategy) :
    ∃ result : String → Except Error Package,
    ∀ spec value, (r.resolve strategy spec).Returns value → result spec = value := by
  have hone : ∀ spec, ∃ value, ∀ other, (r.resolve strategy spec).Returns other →
      value = other := by
    intro spec
    by_cases hreturns : ∃ value, (r.resolve strategy spec).Returns value
    · obtain ⟨value, hvalue⟩ := hreturns
      exact ⟨value, fun other hother => hvalue.unique hother⟩
    · exact ⟨.error .cancelled, fun other hother => absurd ⟨other, hother⟩ hreturns⟩
  choose result hresult using hone
  exact ⟨result, hresult⟩

variable {config : Config} (hnetwork : network.NeverCancels)
  (hprepared : Prepared network files options config r strategy)
include hnetwork hprepared

private theorem steady_drafts : ∀ spec ∈ options.specs, (r.draft strategy spec).Steady :=
  fun spec _ => (Resolver.served_draft hprepared.builds strategy spec).steady hnetwork

theorem accounts_of_returned {ending : Ending}
    (hending : ((run network files (.resolve options)).course false).outcome = .returned ending) :
    ∃ result, (∀ spec ∈ options.specs, (r.resolve strategy spec).Returns (result spec))
      ∧ Accounts files options result ending := by
  have hsteady := steady_drafts hnetwork hprepared
  have hquiet := Resolver.quiet_fanout hprepared.builds hnetwork
  rw [run_of_prepared hprepared] at hending
  obtain ⟨results, hresults, hpure⟩ := Activity.outcome_bind_eq_returned.1 hending
  obtain rfl := Outcome.returned.inj hpure
  obtain ⟨hspecs, hreturns⟩ := (Resolver.outcome_resolveAll_eq_returned hsteady hquiet).1 hresults
  obtain ⟨result, hresult⟩ := exists_result r strategy
  refine ⟨result, fun spec hspec => ?_, ?_⟩
  · rw [← hspecs] at hspec
    obtain ⟨entry, hentry, rfl⟩ := List.mem_map.1 hspec
    rw [hresult _ _ (hreturns entry hentry)]
    exact hreturns entry hentry
  · exact accounts_endingOf hspecs fun entry hentry => hresult _ _ (hreturns entry hentry)

/-- In whatever order the specs take their steps, they come to the same results and the command to
the same ending. -/
theorem returns_of_settled {batch : Resolver.Batch} {results : List (String × Except Error Package)}
    (hrun : Resolver.Reaches r strategy (.start options.specs false) batch)
    (htoken : batch.cancelled = false) (hsettled : batch.Settled results) :
    (run network files (.resolve options)).Returns (endingOf files options results) := by
  have hquiet := Resolver.quiet_fanout hprepared.builds hnetwork
  have hspecs : results.map Prod.fst = options.specs :=
    hsettled.texts.trans (Resolver.Reaches.texts hrun)
  have hsteady := steady_drafts hnetwork hprepared
  refine returns_run hprepared ⟨Resolver.quiet_resolveAll hsteady hquiet, ?_⟩
  refine (Resolver.outcome_resolveAll_eq_returned hsteady hquiet).2 ⟨hspecs, fun entry hentry => ?_⟩
  have hsettles := Resolver.settles_of_reaches hrun (hsettled.mem hentry)
  rw [htoken] at hsettles
  have hspec : entry.1 ∈ options.specs := hspecs ▸ List.mem_map_of_mem hentry
  obtain ⟨alone, halone, -, hsame⟩ := hsettles.exists_alone (hsteady _ hspec).quiet hquiet
  rw [hsame (Resolver.calm_fanout hprepared.builds hnetwork)]
  exact halone

end Run

/-- The command to resolve accounts for every spec, while nobody cancels. If it is stopped, it asks
nobody, writes nothing but the line of the error, and ends with its code. Otherwise it ends with an
account of what each spec comes to alone, in whatever order the specs take their steps; and end it
does on a network that replies. -/
theorem resolve_accounts (files : Files) (options : Resolve) (hnetwork : network.NeverCancels) :
    (∀ cause, Stopped network files options cause →
      (run network files (.resolve options)).course false = ⟨[], false, .returned {
        exitCode := cause.exitCode
        output := ""
        errors := (formatOf options.format).2 ++ errorLine cause
        files }⟩)
    ∧ ((∀ cause, ¬Stopped network files options cause) →
      ∃ config r strategy, Prepared network files options config r strategy
        ∧ (∀ ending, ((run network files (.resolve options)).course false).outcome
          = .returned ending →
          ∃ result, (∀ spec ∈ options.specs, (r.resolve strategy spec).Returns (result spec))
            ∧ Accounts files options result ending)
        ∧ (∀ batch results, r.Reaches strategy (.start options.specs false) batch →
          batch.cancelled = false →
          batch.Settled results →
            (run network files (.resolve options)).Returns (endingOf files options results))
        ∧ (network.Replies → (∃ ending, (run network files (.resolve options)).Returns ending)
          ∧ Inevitable (r.Advances strategy) (fun last => ∃ results, last.Settled results)
            (.start options.specs false))) := by
  refine ⟨fun cause hstopped => ?_, fun hgo => ?_⟩
  · rw [run_of_stopped hstopped]
    rfl
  · obtain ⟨config, r, strategy, hprepared⟩ := exists_prepared hgo
    refine ⟨config, r, strategy, hprepared, fun ending => accounts_of_returned hnetwork hprepared,
      fun batch results => returns_of_settled hnetwork hprepared, fun hreplies => ?_⟩
    have hdependable := Resolver.dependable_of_replies hprepared.builds hreplies
    obtain ⟨alone, halone⟩ := hdependable.returns_resolveAll strategy options.specs
    refine ⟨⟨_, returns_run hprepared halone.2⟩, ?_⟩
    exact (hdependable.inevitable strategy rfl).mono fun last hlast => hlast.2.2

def releaseNetwork : Network := Resolver.serving "\x7b\"tag_name\":\"v1\"\x7d"

def threeSpecs : Resolve where
  specs := ["hello@1", "runx:acme/tool@latest", "hello"]
  protocol := some "v2"
  format := "yaml"
  output := some "out.lock"

def threeSpecsEnding : Ending where
  exitCode := 2
  errors := "Warning: unknown format 'yaml', using console\n"
    ++ "Error: Search service error: malformed search response: error decoding response body\n"
    ++ "Error: No version specified for \"hello\".\n"
  files := ⟨SortedMap.ofList [("out.lock", .file (Text.utf8Bytes ("\n  runx:acme/tool@latest\n"
    ++ "    version:       v1\n    resolved:      runx:acme/tool@v1\n    systems:       (none verified)\n\n").toList))]⟩

/-- The report on three specs names the one that resolves, and the exit code is the greater of the
others'. With a protocol that is not known nothing is asked. -/
theorem resolve_accounts_threeSpecs :
    (∃ r strategy result, (∀ spec ∈ threeSpecs.specs,
      (Resolver.resolve r strategy spec).Returns (result spec))
        ∧ (run releaseNetwork ⟨∅⟩ (.resolve threeSpecs)).Returns threeSpecsEnding
        ∧ Accounts ⟨∅⟩ threeSpecs result threeSpecsEnding)
      ∧ ((run releaseNetwork ⟨∅⟩
          (.resolve { threeSpecs with protocol := some "v3" })).course false).events = [] := by
  have hreplies : releaseNetwork.Replies := fun _ => ⟨_, rfl⟩
  have hending :
      ((run releaseNetwork ⟨∅⟩ (.resolve threeSpecs)).course false).outcome
        = .returned threeSpecsEnding := by
    decide +kernel
  have hgo : ∀ cause, ¬Stopped releaseNetwork ⟨∅⟩ threeSpecs cause := by
    intro cause hstopped
    have hprepare : (prepare releaseNetwork ⟨∅⟩ threeSpecs).toBool = true := by decide +kernel
    rw [prepare_eq_error.2 hstopped] at hprepare
    cases hprepare
  obtain ⟨-, hprepared⟩ := resolve_accounts ⟨∅⟩ threeSpecs hreplies.neverCancels
  obtain ⟨config, r, strategy, -, haccounts, -, hends⟩ := hprepared hgo
  obtain ⟨⟨ending, hreturns⟩, -⟩ := hends hreplies
  obtain rfl := Outcome.returned.inj (hending.symm.trans hreturns.outcome)
  obtain ⟨result, hresult, haccount⟩ := haccounts _ hending
  refine ⟨⟨r, strategy, result, hresult, hreturns, haccount⟩, ?_⟩
  obtain ⟨hstops, -⟩ := resolve_accounts ⟨∅⟩ { threeSpecs with protocol := some "v3" }
    hreplies.neverCancels
  have hstopped : Stopped releaseNetwork ⟨∅⟩ { threeSpecs with protocol := some "v3" }
      (.config ("unknown protocol '" ++ "v3" ++ "'")) := .protocol rfl rfl (by decide +kernel)
  rw [hstops _ hstopped]

end Pinning.Command
