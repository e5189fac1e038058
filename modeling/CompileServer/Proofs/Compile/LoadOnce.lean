import CompileServer.Proofs.Compile.Libraries
import CompileServer.Proofs.Compile.Sample

/-!
# Loading once

A run of calls for plugins shares a cache that starts empty.  Its ledger says for each
call which paths it named, what came of it and which loads it caused.  From the loads alone
follows what every call gets, whatever the loader says when it is asked again.
-/

namespace CompileServer

variable {σ α : Type}

/-- A call for plugins, with the session that it finds; the plugins in there come from the
calls before it. -/
structure PluginCall (σ α : Type) where
  paths : List Path
  session : Session σ α

/-- A call that was answered. -/
structure PluginAnswer where
  paths : List Path
  outcome : Except Fault (List Plugin)
  loads : List Load

/-- The calls so far, oldest first, and the cache that they left. -/
structure PluginLedger where
  past : List PluginAnswer
  cache : PluginCache

/-- The answer of a loader, asked for each library in order until one fails. -/
def uncached (loader : Path → Except Panic (Except PluginError (List Plugin)))
    (libraries : List Path) : Except Fault (List Plugin) :=
  (libraries.mapM fun library => Work.verdict .pluginLoad (loader library)).map List.flatten

theorem uncached_cons (loader : Path → Except Panic (Except PluginError (List Plugin)))
    (library : Path) (rest : List Path) :
    uncached loader (library :: rest) =
      (Work.verdict .pluginLoad (loader library)).bind fun plugins =>
        (uncached loader rest).map (plugins ++ ·) := by
  unfold uncached
  rw [List.mapM_cons]
  cases Work.verdict .pluginLoad (loader library) with
  | error fault => rfl
  | ok plugins =>
      cases rest.mapM fun library => Work.verdict .pluginLoad (loader library) <;> rfl

namespace PluginLedger

def start : PluginLedger :=
  ⟨[], .empty⟩

def opened (ledger : PluginLedger) (call : PluginCall σ α) : Session σ α :=
  { call.session with plugins := ledger.cache }

/-- What comes of the next call. -/
def next (host : Host σ α) (ledger : PluginLedger) (call : PluginCall σ α) : PluginAnswer :=
  ⟨call.paths, (Work.loadPlugins host [] call.paths (ledger.opened call)).1,
    (Work.heard (Work.loadPlugins host.overheard [] call.paths)
      (ledger.opened call)).filterMap Exchange.load?⟩

def serve (host : Host σ α) (ledger : PluginLedger) (call : PluginCall σ α) : PluginLedger :=
  ⟨ledger.past ++ [ledger.next host call],
    (Work.loadPlugins host [] call.paths (ledger.opened call)).2.plugins⟩

def run (host : Host σ α) (calls : List (PluginCall σ α)) : PluginLedger :=
  calls.foldl (serve host) start

/-- All loads so far. -/
def loads (ledger : PluginLedger) : List Load :=
  ledger.past.flatMap PluginAnswer.loads

end PluginLedger

/-- What a call does and gets when these loads were made before it. -/
structure PluginAnswer.Follows (host : Host σ α) (normalize : Path → Path) (known : List Load)
    (answer : PluginAnswer) : Prop where
  asked : ∀ load ∈ answer.loads, ∃ world, load.answer = (host.loadPlugins load.library world).1
  /-- It asks for the libraries it names that were never loaded, in order, and for no others. -/
  attempted : answer.loads.map Load.library <+:
    (Path.firstNamed (answer.paths.map normalize)).filter fun library =>
      !Load.isLoaded known library
  /-- A call that fails ends with the library that failed, which is the only one to fail. -/
  stopped : ∀ fault, answer.outcome = .error fault →
    ∃ done failed, answer.loads = done ++ [failed] ∧
      (∀ load ∈ done, load.verdict.isOk = true) ∧ failed.verdict = .error fault
  /-- A call that succeeds leaves no library out. -/
  completed : ∀ plugins, answer.outcome = .ok plugins →
    (∀ load ∈ answer.loads, load.verdict.isOk = true) ∧
      answer.loads.map Load.library =
        (Path.firstNamed (answer.paths.map normalize)).filter fun library =>
          !Load.isLoaded known library
  /-- It gets, for each library it names, what was loaded for that library by then. -/
  served : ∀ plugins, answer.outcome = .ok plugins → ∃ lists, plugins = lists.flatten ∧
    List.Forall₂ (fun library found => ∃ load ∈ known ++ answer.loads,
      library ≈ load.library ∧ load.verdict = .ok found)
      (Path.firstNamed (answer.paths.map normalize)) lists

/-- What holds of the loads of a run. -/
structure PluginLedger.LoadsOnce (host : Host σ α) (normalize : Path → Path)
    (ledger : PluginLedger) : Prop where
  cached : ledger.cache.Recalls ledger.loads
  /-- A library that was loaded is never asked for again. -/
  once : ledger.loads.Pairwise fun earlier later =>
    earlier.verdict.isOk = true → ¬ later.library ≈ earlier.library
  calls : ∀ earlier answer later, ledger.past = earlier ++ answer :: later →
    answer.Follows host normalize (earlier.flatMap PluginAnswer.loads)

namespace PluginLedger

variable {host : Host σ α} {normalize : Path → Path} {ledger : PluginLedger}

theorem loads_serve (host : Host σ α) (ledger : PluginLedger) (call : PluginCall σ α) :
    (ledger.serve host call).loads = ledger.loads ++ (ledger.next host call).loads := by
  simp only [loads, serve, List.flatMap_append, List.flatMap_cons, List.flatMap_nil,
    List.append_nil]

/-- The next call fetches the libraries it names, each where it is named first. -/
theorem fetch_next (hnormalize : ∀ world, host.normalize world = normalize)
    (ledger : PluginLedger) (call : PluginCall σ α) :
    ledger.cache.Fetch (Path.firstNamed (call.paths.map normalize))
        (ledger.next host call).loads (ledger.next host call).outcome
        (ledger.serve host call).cache ∧
      ∀ load ∈ (ledger.next host call).loads,
        ∃ world, load.answer = (host.loadPlugins load.library world).1 := by
  obtain ⟨libraries, loads, hfetches⟩ :=
    Work.fetch_loadPlugins host [] call.paths (ledger.opened call).overhear
  have hplain : Work.loadPlugins host [] call.paths (ledger.opened call) = _ :=
    Work.through_loadPlugins host.through_overheard [] call.paths (ledger.opened call).overhear
  have hheard : Work.heard (Work.loadPlugins host.overheard [] call.paths)
      (ledger.opened call) = loads.map Load.exchange := by
    unfold Work.heard
    rw [hfetches.adds.1]
    rfl
  have hlibraries : libraries = Path.firstNamed (call.paths.map normalize) := by
    rw [hfetches.named normalize hnormalize, List.filter_eq_self.2]
    exact fun _ _ => rfl
  have hloads : (ledger.next host call).loads = loads := by
    simp only [next, hheard, filterMap_load?]
  rw [hloads]
  simp only [next, serve, hplain]
  rw [← hlibraries]
  exact ⟨hfetches.fetch, hfetches.asked⟩

theorem loadsOnce_start (host : Host σ α) (normalize : Path → Path) :
    start.LoadsOnce host normalize where
  cached := PluginCache.recalls_empty
  once := .nil
  calls earlier answer later hpast := by
    cases earlier <;> cases hpast

/-- What a call does in a cache that recalls the loads before it. -/
theorem follows_next (hnormalize : ∀ world, host.normalize world = normalize)
    (hcached : ledger.cache.Recalls ledger.loads) (call : PluginCall σ α) :
    (ledger.next host call).Follows host normalize ledger.loads := by
  obtain ⟨hfetch, hasked⟩ := fetch_next hnormalize ledger call
  obtain ⟨hinitial, hall⟩ := hfetch.attempted hcached (Path.pairwise_firstNamed _)
  constructor
  · exact hasked
  · exact hinitial
  · exact fun _ hfault => hfetch.stopped hfault
  · exact fun plugins hplugins => ⟨hfetch.succeeded hplugins, hall plugins hplugins⟩
  · exact fun _ hplugins => hfetch.served hcached hplugins

/-- A call asks for each library once, and for none that was loaded before. -/
theorem LoadsOnce.once_append (honce : ledger.LoadsOnce host normalize) {answer : PluginAnswer}
    (hfollows : answer.Follows host normalize ledger.loads) :
    (ledger.loads ++ answer.loads).Pairwise fun earlier later =>
      earlier.verdict.isOk = true → ¬ later.library ≈ earlier.library := by
  have hdistinct : (answer.loads.map Load.library).Pairwise fun earlier later =>
      ¬ later ≈ earlier :=
    ((Path.pairwise_firstNamed _).sublist List.filter_sublist).sublist
      hfollows.attempted.sublist
  rw [List.pairwise_map] at hdistinct
  apply List.pairwise_append.2
  constructor
  · exact honce.once
  constructor
  · apply hdistinct.imp
    intro earlier later hdifferent _
    exact hdifferent
  · intro earlier hearlier later hlater hok hsame
    have hnew := (List.mem_filter.1
      (hfollows.attempted.subset (List.mem_map_of_mem hlater))).2
    have hloaded : Load.isLoaded ledger.loads later.library = true := by
      apply List.any_eq_true.2
      exact ⟨earlier, hearlier, by rw [hok, decide_eq_true hsame]; rfl⟩
    rw [hloaded] at hnew
    cases hnew

/-- What one call preserves. -/
theorem LoadsOnce.serve (honce : ledger.LoadsOnce host normalize)
    (hnormalize : ∀ world, host.normalize world = normalize) (call : PluginCall σ α) :
    (ledger.serve host call).LoadsOnce host normalize := by
  have hfollows := follows_next hnormalize honce.cached call
  constructor
  · rw [loads_serve]
    exact (fetch_next hnormalize ledger call).1.recalls honce.cached
  · rw [loads_serve]
    exact honce.once_append hfollows
  · intro earlier answer later hpast
    rcases List.eq_nil_or_concat' later with rfl | ⟨before, last, rfl⟩
    · obtain ⟨rfl, hanswer⟩ := List.append_inj' hpast rfl
      cases hanswer
      exact hfollows
    · rw [← List.cons_append, ← List.append_assoc] at hpast
      exact honce.calls earlier answer before (List.append_inj' hpast rfl).1

/-- What a run preserves. -/
theorem loadsOnce_foldl (hnormalize : ∀ world, host.normalize world = normalize)
    (honce : ledger.LoadsOnce host normalize) (calls : List (PluginCall σ α)) :
    (calls.foldl (serve host) ledger).LoadsOnce host normalize := by
  induction calls generalizing ledger with
  | nil => exact honce
  | cons call rest ih => exact ih (honce.serve hnormalize call)

end PluginLedger

/-- If the cache and the loads agree with a loader, so does the outcome. -/
theorem PluginCache.Fetch.uncached
    {loader : Path → Except Panic (Except PluginError (List Plugin))}
    {cache after : PluginCache} {libraries : List Path} {loads : List Load}
    {outcome : Except Fault (List Plugin)}
    (hfetch : cache.Fetch libraries loads outcome after)
    (hsame : ∀ left right, left ≈ right → loader left = loader right)
    (hcache : ∀ library plugins, cache.find? library = some plugins →
      Work.verdict .pluginLoad (loader library) = .ok plugins)
    (hloads : ∀ load ∈ loads, load.answer = loader load.library) :
    outcome = CompileServer.uncached loader libraries := by
  induction hfetch with
  | nothing => rfl
  | @known _ _ library rest _ _ plugins hfound _ ih =>
      rw [ih hcache hloads, CompileServer.uncached_cons, hcache library plugins hfound]
      rfl
  | @loaded cache _ load rest _ _ plugins hunknown hloaded _ ih =>
      obtain ⟨hload, hrest⟩ := List.forall_mem_cons.1 hloads
      rw [Load.verdict, hload] at hloaded
      rw [CompileServer.uncached_cons, hloaded, ih ?_ hrest]
      · rfl
      · intro library found hfound
        rw [find?_add, Option.or_eq_some_iff] at hfound
        rcases hfound with hfound | ⟨-, hfound⟩
        · exact hcache library found hfound
        · split at hfound
          · rename_i hequal
            cases hfound
            rw [hsame library load.library hequal, hloaded]
          · cases hfound
  | @failed _ load fault rest _ hfailed =>
      rw [Load.verdict, hloads load List.mem_cons_self] at hfailed
      rw [CompileServer.uncached_cons, hfailed]
      rfl

namespace PluginLedger

variable {host : Host σ α} {normalize : Path → Path} {ledger : PluginLedger}

/-- With a loader that gives one answer to every spelling of a path at any time, the cache
does not show. -/
def Transparent (host : Host σ α) (normalize : Path → Path) (ledger : PluginLedger) : Prop :=
  ∀ loader : Path → Except Panic (Except PluginError (List Plugin)),
    (∀ library world, (host.loadPlugins library world).1 = loader library) →
    (∀ left right, left ≈ right → loader left = loader right) →
    ∀ call : PluginCall σ α, (ledger.next host call).outcome =
      uncached loader (Path.firstNamed (call.paths.map normalize))

theorem LoadsOnce.asked (honce : ledger.LoadsOnce host normalize) :
    ∀ load ∈ ledger.loads, ∃ world, load.answer = (host.loadPlugins load.library world).1 := by
  intro load hload
  obtain ⟨answer, hanswer, hload⟩ := List.mem_flatMap.1 hload
  obtain ⟨earlier, later, hpast⟩ := List.append_of_mem hanswer
  exact (honce.calls earlier answer later hpast).asked load hload

theorem LoadsOnce.transparent (honce : ledger.LoadsOnce host normalize)
    (hnormalize : ∀ world, host.normalize world = normalize) :
    ledger.Transparent host normalize := by
  intro loader hloader hsame call
  obtain ⟨hfetch, hasked⟩ := fetch_next hnormalize ledger call
  have hanswers : ∀ load : Load,
      (∃ world, load.answer = (host.loadPlugins load.library world).1) →
        load.answer = loader load.library := by
    rintro load ⟨world, hload⟩
    rw [hload, hloader]
  apply hfetch.uncached hsame
  · intro library plugins hfound
    obtain ⟨load, hload, hequal, hverdict⟩ := (honce.cached library plugins).1 hfound
    rw [hsame library load.library hequal, ← hanswers load (honce.asked load hload)]
    exact hverdict
  · exact fun load hload => hanswers load (hasked load hload)

/-- Over any calls, every library is loaded at most once and serves all of them, and a cache
over a loader that knows no spellings cannot be told from the loader itself. -/
theorem loadsOnce_run (host : Host σ α) (normalize : Path → Path)
    (hnormalize : ∀ world, host.normalize world = normalize)
    (calls : List (PluginCall σ α)) :
    (run host calls).LoadsOnce host normalize ∧
      (run host calls).Transparent host normalize := by
  have honce : (run host calls).LoadsOnce host normalize :=
    loadsOnce_foldl hnormalize (loadsOnce_start host normalize) calls
  exact ⟨honce, honce.transparent hnormalize⟩

end PluginLedger

namespace Sample

/-- The small host with a loader. -/
def loading (loader : Path → Except Panic (Except PluginError (List Plugin))) :
    Host Unit Nat :=
  { answers with loadPlugins := loader, normalize := Path.absolute ⟨"/"⟩ }.host
    fun _ _ _ => pure (.ok ())

/-- A call for the plugins of some paths. -/
def pluginCall (paths : List String) : PluginCall Unit Nat :=
  ⟨paths.map Path.mk, .start ()⟩

/-- One plugin in every library but one. -/
def loader (library : Path) : Except Panic (Except PluginError (List Plugin)) :=
  if library ≈ ⟨"/k/broken"⟩ then .ok (.error (.other ⟨"/k/broken"⟩ "bad image"))
  else .ok (.ok [⟨"inline", .ofComponents library.components⟩])

theorem loader_congr (left right : Path) (hsame : left ≈ right) :
    loader left = loader right := by
  simp only [loader, Path.equiv_iff, Path.equiv_iff.1 hsame]

end Sample

/-- A library that was loaded before a failure is kept, the one that failed is tried again,
and a call for both spellings of one path gets its plugins once. -/
theorem PluginLedger.loadsOnce_retry :
    let calls := [Sample.pluginCall ["/k/a", "/k/broken"], Sample.pluginCall ["/k/broken"]]
    let ledger := run (Sample.loading Sample.loader) calls
    ledger.LoadsOnce (Sample.loading Sample.loader) (Path.absolute ⟨"/"⟩) ∧
      ledger.loads.map (Path.text ∘ Load.library) = ["/k/a", "/k/broken", "/k/broken"] ∧
      (ledger.next (Sample.loading Sample.loader)
        (Sample.pluginCall ["/k/a/", "/k/./a"])).outcome.toOption =
          some [⟨"inline", ⟨"/k/a"⟩⟩] := by
  intro calls ledger
  obtain ⟨honce, htransparent⟩ := loadsOnce_run (Sample.loading Sample.loader)
    (Path.absolute ⟨"/"⟩) (fun _ => rfl) calls
  refine ⟨honce, by decide +kernel, ?_⟩
  rw [htransparent Sample.loader (fun _ _ => rfl) Sample.loader_congr]
  decide +kernel

/-- A loader that tells two spellings of a path apart shows that there is a cache. -/
theorem PluginLedger.loader_spelling :
    ¬ ∀ (loader : Path → Except Panic (Except PluginError (List Plugin)))
      (calls : List (PluginCall Unit Nat)) (call : PluginCall Unit Nat),
      ((run (Sample.loading loader) calls).next (Sample.loading loader) call).outcome =
        uncached loader (Path.firstNamed (call.paths.map (Path.absolute ⟨"/"⟩))) := by
  intro htransparent
  have hequal := congrArg Except.toOption (htransparent
    (fun library => .ok (.ok [⟨"inline", library⟩])) [Sample.pluginCall ["/k/a"]]
    (Sample.pluginCall ["/k/a/"]))
  revert hequal
  decide +kernel

end CompileServer
