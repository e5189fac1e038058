import CompileServer.Proofs.Compile.Loading
import CompileServer.Proofs.Compile.Overheard
import Mathlib.Data.List.Forall2

/-!
# Libraries over many requests

Calls for plugins share a cache, and a loader may say something else each time it is asked.
A library is loaded until that succeeds once, and every later call gets what was loaded
then.  The first library that cannot be loaded ends its call, and the next call that names it
tries again.  If the loader says the same about every spelling of a path at any time, the
cache does not show at all.
-/

namespace CompileServer

variable {σ α : Type}

namespace Path

/-- The paths, each where it comes first under any spelling. -/
def firstNamed (paths : List Path) : List Path :=
  paths.eraseDupsBy fun left right => decide (left ≈ right)

theorem firstNamed_cons (path : Path) (rest : List Path) :
    firstNamed (path :: rest) =
      path :: firstNamed (rest.filter fun other => !decide (other ≈ path)) := by
  simp only [firstNamed, List.eraseDupsBy_cons, Bool.decide_eq_false]

/-- A path that was not seen yet is named first, and what it names is not named again. -/
theorem firstNamed_unseen {path : Path} {seen : List Path} (paths : List Path)
    (hseen : path.isIn seen = false) :
    firstNamed ((path :: paths).filter fun other => !other.isIn seen) =
      path :: firstNamed (paths.filter fun other => !other.isIn (path :: seen)) := by
  rw [List.filter_cons_of_pos (by rw [hseen, Bool.not_false]), firstNamed_cons,
    List.filter_filter]
  congr 2
  apply List.filter_congr
  intro other _
  simp only [isIn, List.any_cons, Bool.not_or]

/-- What holds of a list if it holds of the rest without the first path holds of every list. -/
theorem firstNamed_induction {motive : List Path → Prop} (nil : motive [])
    (cons : ∀ path rest, motive (rest.filter fun other => !decide (other ≈ path)) →
      motive (path :: rest)) : ∀ paths, motive paths
  | [] => nil
  | path :: rest => cons path rest (firstNamed_induction nil cons _)
termination_by paths => paths.length
decreasing_by
  exact Nat.lt_succ_of_le (List.length_filter_le _ rest)

theorem mem_of_mem_firstNamed (paths : List Path) :
    ∀ path ∈ firstNamed paths, path ∈ paths := by
  induction paths using firstNamed_induction with
  | nil => exact fun _ hpath => hpath
  | cons head rest ih =>
      intro path hpath
      rw [firstNamed_cons] at hpath
      rcases List.mem_cons.1 hpath with rfl | hrest
      · exact List.mem_cons_self
      · exact List.mem_cons_of_mem _ ((List.mem_filter.1 (ih path hrest)).1)

theorem pairwise_firstNamed (paths : List Path) :
    (firstNamed paths).Pairwise fun earlier later => ¬ later ≈ earlier := by
  induction paths using firstNamed_induction with
  | nil => exact .nil
  | cons head rest ih =>
      rw [firstNamed_cons, List.pairwise_cons]
      constructor
      · intro later hlater
        have hkept := (List.mem_filter.1 (mem_of_mem_firstNamed _ later hlater)).2
        simpa using hkept
      · exact ih

end Path

/-- A library that was asked for, and what the loader said. -/
structure Load where
  library : Path
  answer : Except Panic (Except PluginError (List Plugin))

/-- The plugins that were loaded, or how the request ended. -/
def Load.verdict (load : Load) : Except Fault (List Plugin) :=
  Work.verdict .pluginLoad load.answer

def Load.exchange (load : Load) : Exchange α :=
  .loadPlugins load.library load.answer

def Exchange.load? : Exchange α → Option Load
  | .loadPlugins library answer => some ⟨library, answer⟩
  | _ => none

theorem filterMap_load? (loads : List Load) :
    (loads.map (Load.exchange (α := α))).filterMap Exchange.load? = loads := by
  rw [List.filterMap_map]
  exact List.filterMap_some

/-- Whether plugins of a library were loaded. -/
def Load.isLoaded (loads : List Load) (library : Path) : Bool :=
  loads.any fun load => decide (library ≈ load.library) && load.verdict.isOk

namespace PluginCache

/-- Getting the plugins of some libraries: those that the cache has come from there, the
others are loaded one after the other until one fails. -/
inductive Fetch : PluginCache → List Path → List Load → Except Fault (List Plugin) →
    PluginCache → Prop where
  | nothing (cache : PluginCache) : Fetch cache [] [] (.ok []) cache
  | known {cache after : PluginCache} {library : Path} {rest : List Path} {loads : List Load}
      {outcome : Except Fault (List Plugin)} {plugins : List Plugin}
      (hfound : cache.find? library = some plugins)
      (hrest : Fetch cache rest loads outcome after) :
      Fetch cache (library :: rest) loads (outcome.map (plugins ++ ·)) after
  | loaded {cache after : PluginCache} {load : Load} {rest : List Path} {loads : List Load}
      {outcome : Except Fault (List Plugin)} {plugins : List Plugin}
      (hunknown : cache.find? load.library = none) (hloaded : load.verdict = .ok plugins)
      (hrest : Fetch (cache.add load.library plugins) rest loads outcome after) :
      Fetch cache (load.library :: rest) (load :: loads) (outcome.map (plugins ++ ·)) after
  | failed {cache : PluginCache} {load : Load} {fault : Fault} (rest : List Path)
      (hunknown : cache.find? load.library = none) (hfailed : load.verdict = .error fault) :
      Fetch cache (load.library :: rest) [load] (.error fault) cache

end PluginCache

namespace Work

variable {host : Host σ α}

/-- A library comes from the cache, or the loader is asked for it. -/
theorem libraryPlugins_overheard (host : Host σ α) (library : Path)
    (session : Session (Overheard σ α) α) :
    (∃ plugins, session.plugins.find? library = some plugins ∧
      libraryPlugins host.overheard library session = (.ok plugins, session)) ∨
    ∃ (load : Load) (middle : Session (Overheard σ α) α), load.library = library ∧
      session.plugins.find? library = none ∧
      load.answer = (host.loadPlugins library session.world.world).1 ∧
      Adds session middle [load.exchange] [] ∧ middle.plugins = session.plugins ∧
      libraryPlugins host.overheard library session =
        match load.verdict with
        | .ok plugins =>
          (.ok plugins, { middle with plugins := session.plugins.add library plugins })
        | .error fault => (.error fault, middle) := by
  unfold libraryPlugins
  rw [bind_of_ok (get_apply session)]
  cases hfound : session.plugins.find? library with
  | some plugins => exact Or.inl ⟨plugins, rfl, rfl⟩
  | none =>
      right
      have hattempt := attempt_apply .pluginLoad (host.overheard.loadPlugins library) session
      have hadds := (attempt_note .pluginLoad (.loadPlugins library) (host.loadPlugins library)
        session).2
      change Adds session (attempt _ (host.overheard.loadPlugins library) session).2 _ _ at hadds
      rw [hattempt] at hadds
      refine ⟨⟨library, (host.loadPlugins library session.world.world).1⟩, _, rfl, rfl, rfl,
        hadds, rfl, ?_⟩
      cases hverdict : Load.verdict ⟨library, (host.loadPlugins library session.world.world).1⟩ with
      | ok plugins =>
          apply bind_of_ok
          exact hattempt.trans (Prod.ext hverdict rfl)
      | error fault =>
          apply bind_of_error
          exact hattempt.trans (Prod.ext hverdict rfl)

/-- Loading the plugins of some paths gets them for these libraries, with these loads and no
other word, where the paths that were seen before do not count. -/
structure Fetches (host : Host σ α) (seen paths : List Path)
    (before : Session (Overheard σ α) α)
    (result : Except Fault (List Plugin) × Session (Overheard σ α) α)
    (libraries : List Path) (loads : List Load) : Prop where
  fetch : before.plugins.Fetch libraries loads result.1 result.2.plugins
  adds : Adds before result.2 (loads.map Load.exchange) []
  asked : ∀ load ∈ loads, ∃ world, load.answer = (host.loadPlugins load.library world).1
  named : ∀ normalize, (∀ world, host.normalize world = normalize) →
    libraries = Path.firstNamed ((paths.map normalize).filter fun path => !path.isIn seen)

section Steps

variable {seen rest libraries : List Path} {path : Path} {loads : List Load} {load : Load}
  {plugins : List Plugin} {world : σ} {before middle : Session (Overheard σ α) α}
  {result : Except Fault (List Plugin) × Session (Overheard σ α) α}

theorem fetches_nil (host : Host σ α) (seen : List Path)
    (session : Session (Overheard σ α) α) :
    Fetches host seen [] session (.ok [], session) [] [] where
  fetch := .nothing session.plugins
  adds := .refl session
  asked _ hload := absurd hload List.not_mem_nil
  named _ _ := rfl

/-- A path that was seen before is passed over. -/
theorem Fetches.skip (hrest : Fetches host seen rest before result libraries loads)
    (hseen : (host.normalize world path).isIn seen = true) :
    Fetches host seen (path :: rest) before result libraries loads where
  fetch := hrest.fetch
  adds := hrest.adds
  asked := hrest.asked
  named normalize hnormalize := by
    rw [hnormalize] at hseen
    rw [hrest.named normalize hnormalize, List.map_cons,
      List.filter_cons_of_neg (by simpa using hseen)]

/-- A path that was not seen yet names its library before what the rest names. -/
theorem named_cons (hunseen : (host.normalize world path).isIn seen = false)
    (hnamed : ∀ normalize, (∀ world, host.normalize world = normalize) →
      libraries = Path.firstNamed ((rest.map normalize).filter fun other =>
        !other.isIn (host.normalize world path :: seen)))
    (normalize : Path → Path) (hnormalize : ∀ world, host.normalize world = normalize) :
    host.normalize world path :: libraries =
      Path.firstNamed (((path :: rest).map normalize).filter fun other =>
        !other.isIn seen) := by
  rw [hnamed normalize hnormalize, List.map_cons, hnormalize]
  rw [hnormalize] at hunseen
  exact (Path.firstNamed_unseen _ hunseen).symm

/-- A library that is in the cache comes from there. -/
theorem Fetches.known
    (hrest : Fetches host (host.normalize world path :: seen) rest before result libraries loads)
    (hunseen : (host.normalize world path).isIn seen = false)
    (hfound : before.plugins.find? (host.normalize world path) = some plugins) :
    Fetches host seen (path :: rest) before (result.1.map (plugins ++ ·), result.2)
      (host.normalize world path :: libraries) loads where
  fetch := .known hfound hrest.fetch
  adds := hrest.adds
  asked := hrest.asked
  named := named_cons hunseen hrest.named

/-- A library that is loaded is in the cache from then on. -/
theorem Fetches.loaded (hlibrary : load.library = host.normalize world path)
    (hrest : Fetches host (load.library :: seen) rest
      { middle with plugins := before.plugins.add load.library plugins } result libraries loads)
    (hunseen : load.library.isIn seen = false)
    (hunknown : before.plugins.find? load.library = none)
    (hasked : load.answer = (host.loadPlugins load.library world).1)
    (hadds : Adds before middle [load.exchange] []) (hverdict : load.verdict = .ok plugins) :
    Fetches host seen (path :: rest) before (result.1.map (plugins ++ ·), result.2)
      (load.library :: libraries) (load :: loads) where
  fetch := .loaded hunknown hverdict hrest.fetch
  adds := hadds.trans hrest.adds
  asked := List.forall_mem_cons.2 ⟨⟨world, hasked⟩, hrest.asked⟩
  named := by
    rw [hlibrary] at hunseen hrest ⊢
    exact named_cons hunseen hrest.named

/-- A library that cannot be loaded is the last one that is asked for. -/
theorem fetches_of_fault {fault : Fault} (rest : List Path)
    (hlibrary : load.library = host.normalize world path)
    (hunseen : load.library.isIn seen = false)
    (hunknown : before.plugins.find? load.library = none)
    (hasked : load.answer = (host.loadPlugins load.library world).1)
    (hadds : Adds before middle [load.exchange] []) (hplugins : middle.plugins = before.plugins)
    (hverdict : load.verdict = .error fault) :
    ∃ libraries, Fetches host seen (path :: rest) before (.error fault, middle) libraries
      [load] := by
  -- What is named after it is not reached, so the world at hand may spell it.
  refine ⟨load.library :: Path.firstNamed ((rest.map (host.normalize world)).filter fun other =>
    !other.isIn (load.library :: seen)), ?_⟩
  constructor
  · rw [hplugins]
    exact .failed _ hunknown hverdict
  · exact hadds
  · exact List.forall_mem_singleton.2 ⟨world, hasked⟩
  · rw [hlibrary] at hunseen ⊢
    apply named_cons hunseen
    intro normalize hnormalize
    rw [hnormalize]

end Steps

/-- Loading the plugins of some paths takes each library from the cache or asks for it. -/
theorem fetch_loadPlugins (host : Host σ α) (seen paths : List Path)
    (session : Session (Overheard σ α) α) :
    ∃ libraries loads, Fetches host seen paths session
      (loadPlugins host.overheard seen paths session) libraries loads := by
  induction paths generalizing seen session with
  | nil => exact ⟨[], [], fetches_nil host seen session⟩
  | cons path rest ih =>
      rw [loadPlugins, bind_of_ok (get_apply session)]
      have hnormalized : host.overheard.normalize session.world path =
          host.normalize session.world.world path := rfl
      simp only [hnormalized]
      cases hseen : (host.normalize session.world.world path).isIn seen with
      | true =>
          obtain ⟨libraries, loads, hrest⟩ := ih seen session
          rw [if_pos rfl]
          exact ⟨libraries, loads, hrest.skip hseen⟩
      | false =>
          rw [if_neg Bool.false_ne_true]
          obtain ⟨plugins, hfound, hknown⟩ | ⟨load, middle, hlibrary, hunknown, hanswer, hadds,
              hplugins, hasked⟩ :=
            libraryPlugins_overheard host (host.normalize session.world.world path) session
          · rw [bind_of_ok hknown, bind_pure]
            obtain ⟨libraries, loads, hrest⟩ :=
              ih (host.normalize session.world.world path :: seen) session
            exact ⟨_, loads, hrest.known hseen hfound⟩
          · rw [← hlibrary] at hseen hunknown hanswer hasked ⊢
            cases hverdict : load.verdict with
            | ok plugins =>
                simp only [hverdict] at hasked
                rw [bind_of_ok hasked, bind_pure]
                obtain ⟨libraries, loads, hrest⟩ := ih (load.library :: seen)
                  { middle with plugins := session.plugins.add load.library plugins }
                exact ⟨_, _, hrest.loaded hlibrary hseen hunknown hanswer hadds hverdict⟩
            | error fault =>
                simp only [hverdict] at hasked
                rw [bind_of_error hasked]
                obtain ⟨libraries, hfetches⟩ := fetches_of_fault rest hlibrary hseen hunknown
                  hanswer hadds hplugins hverdict
                exact ⟨libraries, [load], hfetches⟩

end Work

namespace Load

theorem isLoaded_iff {loads : List Load} {library : Path} :
    isLoaded loads library = true ↔
      ∃ load ∈ loads, library ≈ load.library ∧ ∃ plugins, load.verdict = .ok plugins := by
  simp only [isLoaded, List.any_eq_true, Bool.and_eq_true, decide_eq_true_eq]
  refine exists_congr fun load => and_congr_right fun _ => and_congr_right fun _ => ?_
  cases load.verdict <;> simp [Except.isOk, Except.toBool]

theorem isLoaded_append (loads : List Load) (load : Load) (library : Path) :
    isLoaded (loads ++ [load]) library =
      (isLoaded loads library || (decide (library ≈ load.library) && load.verdict.isOk)) := by
  simp only [isLoaded, List.any_append, List.any_cons, List.any_nil, Bool.or_false]

end Load

namespace PluginCache

/-- The cache has what some loads gave, and nothing else. -/
def Recalls (cache : PluginCache) (loads : List Load) : Prop :=
  ∀ library plugins, cache.find? library = some plugins ↔
    ∃ load ∈ loads, library ≈ load.library ∧ load.verdict = .ok plugins

theorem find?_congr (cache : PluginCache) {left right : Path} (hsame : left ≈ right) :
    cache.find? left = cache.find? right := by
  simp only [find?, Path.equiv_iff, Path.equiv_iff.1 hsame]

variable {cache after : PluginCache} {libraries : List Path} {known loads : List Load}
  {outcome : Except Fault (List Plugin)} {load : Load} {plugins : List Plugin}

theorem recalls_empty : PluginCache.empty.Recalls [] := by
  intro library plugins
  simp [find?, empty]

theorem Recalls.isLoaded_eq (hrecalls : cache.Recalls known) (library : Path) :
    Load.isLoaded known library = (cache.find? library).isSome := by
  rw [Bool.eq_iff_iff, Load.isLoaded_iff, Option.isSome_iff_exists]
  simp only [hrecalls library]
  constructor
  · rintro ⟨load, hload, hsame, plugins, hverdict⟩
    exact ⟨plugins, load, hload, hsame, hverdict⟩
  · rintro ⟨plugins, load, hload, hsame, hverdict⟩
    exact ⟨load, hload, hsame, plugins, hverdict⟩

theorem Recalls.add (hrecalls : cache.Recalls known)
    (hunknown : cache.find? load.library = none) (hloaded : load.verdict = .ok plugins) :
    (cache.add load.library plugins).Recalls (known ++ [load]) := by
  intro library found
  rw [find?_add, Option.or_eq_some_iff, hrecalls library found]
  constructor
  · rintro (⟨other, hother, hfound⟩ | ⟨-, hfound⟩)
    · exact ⟨other, List.mem_append_left _ hother, hfound⟩
    · split at hfound
      · rename_i hsame
        cases hfound
        exact ⟨load, List.mem_append_right _ List.mem_cons_self, hsame, hloaded⟩
      · cases hfound
  · rintro ⟨other, hother, hsame, hverdict⟩
    rcases List.mem_append.1 hother with hother | hother
    · exact Or.inl ⟨other, hother, hsame, hverdict⟩
    · rw [List.mem_singleton.1 hother] at hsame hverdict
      rw [find?_congr cache hsame, if_pos hsame, hunknown]
      rw [hloaded] at hverdict
      exact Or.inr ⟨rfl, by cases hverdict; rfl⟩

/-- A cache gains what is loaded into it. -/
theorem Fetch.recalls (hfetch : cache.Fetch libraries loads outcome after)
    (hrecalls : cache.Recalls known) : after.Recalls (known ++ loads) := by
  induction hfetch generalizing known with
  | nothing =>
      rw [List.append_nil]
      exact hrecalls
  | known _ _ ih => exact ih hrecalls
  | @loaded _ _ load _ loads _ _ hunknown hloaded _ ih =>
      have hlater := ih (hrecalls.add hunknown hloaded)
      rwa [List.append_assoc] at hlater
  | @failed cache load fault _ _ hfailed =>
      intro library plugins
      rw [hrecalls library plugins]
      constructor
      · rintro ⟨other, hother, hfound⟩
        exact ⟨other, List.mem_append_left _ hother, hfound⟩
      · rintro ⟨other, hother, hsame, hverdict⟩
        rcases List.mem_append.1 hother with hother | hother
        · exact ⟨other, hother, hsame, hverdict⟩
        · rw [List.mem_singleton.1 hother, hfailed] at hverdict
          cases hverdict

theorem exists_of_map_eq_ok {plugins all : List Plugin}
    (hmap : outcome.map (plugins ++ ·) = .ok all) :
    ∃ others, outcome = .ok others ∧ all = plugins ++ others := by
  cases outcome with
  | error fault => cases hmap
  | ok others =>
      cases hmap
      exact ⟨others, rfl, rfl⟩

/-- What is asked for are the libraries that were never loaded, from the first one on. -/
theorem Fetch.attempted (hfetch : cache.Fetch libraries loads outcome after)
    (hrecalls : cache.Recalls known)
    (hdistinct : libraries.Pairwise fun earlier later => ¬ later ≈ earlier) :
    loads.map Load.library <+: libraries.filter (fun library => !Load.isLoaded known library) ∧
      ∀ plugins, outcome = .ok plugins →
        loads.map Load.library =
          libraries.filter fun library => !Load.isLoaded known library := by
  induction hfetch generalizing known with
  | nothing => exact ⟨List.prefix_rfl, fun _ _ => rfl⟩
  | @known cache _ library rest _ _ _ hfound _ ih =>
      have hloaded : Load.isLoaded known library = true := by
        rw [hrecalls.isLoaded_eq, hfound]
        rfl
      rw [List.filter_cons_of_neg (by simp [hloaded])]
      obtain ⟨hinitial, hall⟩ := ih hrecalls (List.pairwise_cons.1 hdistinct).2
      refine ⟨hinitial, fun plugins houtcome => ?_⟩
      obtain ⟨others, hothers, -⟩ := exists_of_map_eq_ok houtcome
      exact hall others hothers
  | @loaded cache _ load rest _ _ _ hunknown hloaded _ ih =>
      obtain ⟨hother, hrest⟩ := List.pairwise_cons.1 hdistinct
      have hnew : Load.isLoaded known load.library = false := by
        rw [hrecalls.isLoaded_eq, hunknown]
        rfl
      -- The library just loaded is not named again, so the rest is as unknown as it was.
      have hsame : rest.filter (fun library => !Load.isLoaded (known ++ [load]) library) =
          rest.filter fun library => !Load.isLoaded known library := by
        apply List.filter_congr
        intro library hlibrary
        rw [Load.isLoaded_append, decide_eq_false (hother library hlibrary), Bool.false_and,
          Bool.or_false]
      obtain ⟨hinitial, hall⟩ := ih (hrecalls.add hunknown hloaded) hrest
      rw [hsame] at hinitial hall
      rw [List.filter_cons_of_pos (by simp [hnew]), List.map_cons]
      refine ⟨(List.prefix_cons_inj _).2 hinitial, fun plugins houtcome => ?_⟩
      obtain ⟨others, hothers, -⟩ := exists_of_map_eq_ok houtcome
      rw [hall others hothers]
  | @failed cache load fault rest hunknown _ =>
      have hnew : Load.isLoaded known load.library = false := by
        rw [hrecalls.isLoaded_eq, hunknown]
        rfl
      rw [List.filter_cons_of_pos (by simp [hnew])]
      exact ⟨⟨_, rfl⟩, fun _ houtcome => by cases houtcome⟩

theorem error_of_map {plugins : List Plugin} {fault : Fault}
    (hmap : outcome.map (plugins ++ ·) = .error fault) : outcome = .error fault := by
  cases outcome with
  | error other => exact hmap
  | ok others => cases hmap

/-- Nothing is loaded after a library that failed, and the failure is that of the call. -/
theorem Fetch.stopped (hfetch : cache.Fetch libraries loads outcome after) {fault : Fault}
    (hfault : outcome = .error fault) :
    ∃ done failed, loads = done ++ [failed] ∧ (∀ load ∈ done, load.verdict.isOk = true) ∧
      failed.verdict = .error fault := by
  induction hfetch with
  | nothing => cases hfault
  | known _ _ ih => exact ih (error_of_map hfault)
  | @loaded _ _ load _ _ _ _ _ hloaded _ ih =>
      obtain ⟨done, failed, rfl, hdone, hfailed⟩ := ih (error_of_map hfault)
      refine ⟨load :: done, failed, rfl, List.forall_mem_cons.2 ⟨?_, hdone⟩, hfailed⟩
      rw [hloaded]
      rfl
  | @failed _ load _ _ _ hfailed =>
      cases hfault
      exact ⟨[], load, rfl, fun _ hload => absurd hload List.not_mem_nil, hfailed⟩

/-- A call that gets its plugins loaded whatever it asked for. -/
theorem Fetch.succeeded (hfetch : cache.Fetch libraries loads outcome after)
    {plugins : List Plugin} (hok : outcome = .ok plugins) :
    ∀ load ∈ loads, load.verdict.isOk = true := by
  induction hfetch generalizing plugins with
  | nothing => exact fun _ hload => absurd hload List.not_mem_nil
  | known _ _ ih =>
      obtain ⟨others, hothers, -⟩ := exists_of_map_eq_ok hok
      exact ih hothers
  | loaded _ hloaded _ ih =>
      obtain ⟨others, hothers, -⟩ := exists_of_map_eq_ok hok
      intro load hload
      rcases List.mem_cons.1 hload with rfl | hload
      · rw [hloaded]
        rfl
      · exact ih hothers load hload
  | failed => cases hok

/-- A call gets what was loaded for each library that it names, now or before. -/
theorem Fetch.served (hfetch : cache.Fetch libraries loads outcome after)
    (hrecalls : cache.Recalls known) {plugins : List Plugin} (hok : outcome = .ok plugins) :
    ∃ lists, plugins = lists.flatten ∧
      List.Forall₂ (fun library found => ∃ load ∈ known ++ loads,
        library ≈ load.library ∧ load.verdict = .ok found) libraries lists := by
  induction hfetch generalizing known plugins with
  | nothing =>
      cases hok
      exact ⟨[], rfl, .nil⟩
  | @known cache _ library _ loads _ found hfound _ ih =>
      obtain ⟨others, hothers, rfl⟩ := exists_of_map_eq_ok hok
      obtain ⟨lists, rfl, hlists⟩ := ih hrecalls hothers
      obtain ⟨load, hload, hgives⟩ := (hrecalls library found).1 hfound
      exact ⟨found :: lists, rfl, .cons ⟨load, List.mem_append_left _ hload, hgives⟩ hlists⟩
  | @loaded _ _ load _ loads _ found hunknown hloaded _ ih =>
      obtain ⟨others, hothers, rfl⟩ := exists_of_map_eq_ok hok
      obtain ⟨lists, rfl, hlists⟩ := ih (hrecalls.add hunknown hloaded) hothers
      rw [List.append_assoc, List.singleton_append] at hlists
      have hmem : load ∈ known ++ load :: loads :=
        List.mem_append_right _ List.mem_cons_self
      exact ⟨found :: lists, rfl, .cons ⟨load, hmem, Setoid.refl _, hloaded⟩ hlists⟩
  | failed => cases hok

end PluginCache

end CompileServer
