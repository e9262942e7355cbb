import Mathlib.Data.List.Nodup
import Multicast.Kernel.Simulated
import Multicast.Proofs.Except
import Multicast.Proofs.Registry.Operation

/-!
# The forwarding cache

The cache has at most one route for each origin and group. Storing a route puts it over the one with
its key; deleting takes out what has the key, whatever slot it arrives on and wherever it goes.
-/

namespace Multicast

variable {F : Family}

/-- What the kernel finds a route by. -/
def Route.cacheKey (route : Route F) : F.Addr × F.Addr := (route.origin, route.group)

namespace SimulatedKernel

@[simp]
theorem sameEntry_iff {route other : Route F} :
    sameEntry route other = true ↔ other.cacheKey = route.cacheKey := by
  simp [sameEntry, Route.cacheKey]

@[simp]
theorem sameEntry_eq_false_iff {route other : Route F} :
    sameEntry route other = false ↔ other.cacheKey ≠ route.cacheKey := by
  rw [← Bool.not_eq_true, sameEntry_iff]

/-! ### Storing -/

theorem mem_of_mem_store {route entry : Route F} {entries : List (Route F)}
    (hmem : entry ∈ store route entries) : entry = route ∨ entry ∈ entries := by
  induction entries with
  | nil => exact .inl (by simpa [store] using hmem)
  | cons head rest ih =>
      unfold store at hmem
      split at hmem
      · exact (List.mem_cons.mp hmem).imp_right (List.mem_cons_of_mem _)
      · rcases List.mem_cons.mp hmem with rfl | hrest
        · exact .inr List.mem_cons_self
        · exact (ih hrest).imp_right (List.mem_cons_of_mem _)

theorem mem_cacheKey_store {key : F.Addr × F.Addr} {route : Route F} {entries : List (Route F)}
    (hmem : key ∈ (store route entries).map Route.cacheKey) :
    key = route.cacheKey ∨ key ∈ entries.map Route.cacheKey := by
  obtain ⟨entry, hentry, rfl⟩ := List.mem_map.mp hmem
  exact (mem_of_mem_store hentry).imp (congrArg _) List.mem_map_of_mem

theorem nodup_store {entries : List (Route F)} (hnodup : (entries.map Route.cacheKey).Nodup)
    (route : Route F) : ((store route entries).map Route.cacheKey).Nodup := by
  induction entries with
  | nil => simp [store]
  | cons head rest ih =>
      rw [List.map_cons, List.nodup_cons] at hnodup
      unfold store
      split
      · rename_i hsame
        rw [List.map_cons, List.nodup_cons, ← sameEntry_iff.mp hsame]
        exact hnodup
      · rename_i hother
        rw [List.map_cons, List.nodup_cons]
        refine ⟨fun hmem => ?_, ih hnodup.2⟩
        rcases mem_cacheKey_store hmem with hkey | hrest
        · exact hother (sameEntry_iff.mpr hkey)
        · exact hnodup.1 hrest

theorem mem_store_iff {entries : List (Route F)} (hnodup : (entries.map Route.cacheKey).Nodup)
    {route entry : Route F} :
    entry ∈ store route entries ↔
      entry = route ∨ entry ∈ entries ∧ entry.cacheKey ≠ route.cacheKey := by
  induction entries with
  | nil => simp [store]
  | cons head rest ih =>
      rw [List.map_cons, List.nodup_cons] at hnodup
      unfold store
      split
      · rename_i hsame
        have hkey := sameEntry_iff.mp hsame
        have hrest : entry ∈ rest → entry.cacheKey ≠ route.cacheKey := fun hmem heq =>
          hnodup.1 (hkey ▸ heq ▸ List.mem_map_of_mem hmem)
        grind
      · rename_i hother
        have hkey : head.cacheKey ≠ route.cacheKey := mt sameEntry_iff.mpr hother
        rw [List.mem_cons, ih hnodup.2]
        grind

/-! ### What route calls do to a kernel -/

theorem cache_addRoute (route : Route F) (kernel : SimulatedKernel F) :
    (addRoute route kernel).2.cache =
      if kernel.faults.addRoute = none then store route kernel.cache else kernel.cache := by
  cases hfault : kernel.faults.addRoute <;> simp [addRoute, record, hfault]

theorem isOk_install (route : Route F) (kernel : SimulatedKernel F) :
    (route.install kernel).answer.isOk = true ↔ kernel.faults.addRoute = none := by
  rw [Route.answer_install]
  cases hfault : kernel.faults.addRoute <;>
    simp [RouteSocket.addRoute, addRoute, record, hfault, Except.toBool]

theorem cache_delRoute (route : Route F) (kernel : SimulatedKernel F) :
    (delRoute route kernel).2.cache = kernel.cache.filter fun entry => !sameEntry route entry := by
  by_cases hany : kernel.cache.any (sameEntry route) = true
  · simp [delRoute, record, hany]
  · have hnone : ∀ entry ∈ kernel.cache, entry.cacheKey ≠ route.cacheKey := by simpa using hany
    have hfilter : (kernel.cache.filter fun entry => !sameEntry route entry) = kernel.cache :=
      List.filter_eq_self.mpr fun entry hmem => by simpa using hnone entry hmem
    simp [delRoute, record, hany, hfilter]

theorem cache_apply_add (route : Route F) (kernel : SimulatedKernel F) :
    ((RouteCall.add route).apply kernel).cache =
      if kernel.faults.addRoute = none then store route kernel.cache else kernel.cache :=
  cache_addRoute route kernel

theorem cache_apply_del (route : Route F) (kernel : SimulatedKernel F) :
    ((RouteCall.del route).apply kernel).cache =
      kernel.cache.filter fun entry => !sameEntry route entry :=
  cache_delRoute route kernel

theorem frame_apply (call : RouteCall F) (kernel : SimulatedKernel F) :
    (call.apply kernel).registered = kernel.registered ∧
      (call.apply kernel).openSockets = kernel.openSockets ∧
      (call.apply kernel).faults = kernel.faults := by
  cases call with
  | add route =>
      cases hfault : kernel.faults.addRoute <;>
        simp [RouteCall.apply, RouteSocket.addRoute, addRoute, record, hfault]
  | del route =>
      by_cases hany : kernel.cache.any (sameEntry route) = true <;>
        simp [RouteCall.apply, RouteSocket.delRoute, delRoute, record, hany]

theorem nodup_apply {kernel : SimulatedKernel F}
    (hnodup : (kernel.cache.map Route.cacheKey).Nodup) (call : RouteCall F) :
    ((call.apply kernel).cache.map Route.cacheKey).Nodup := by
  cases call with
  | add route =>
      rw [cache_apply_add]
      split
      · exact nodup_store hnodup route
      · exact hnodup
  | del route =>
      rw [cache_apply_del]
      exact hnodup.sublist (List.filter_sublist.map Route.cacheKey)

theorem nodup_foldl_apply {kernel : SimulatedKernel F}
    (hnodup : (kernel.cache.map Route.cacheKey).Nodup) (calls : List (RouteCall F)) :
    ((calls.foldl RouteCall.apply kernel).cache.map Route.cacheKey).Nodup := by
  induction calls generalizing kernel with
  | nil => exact hnodup
  | cons call rest ih => exact ih (nodup_apply hnodup call)

theorem mem_cache_deletions {routes : List (Route F)} {kernel : SimulatedKernel F}
    {entry : Route F} :
    entry ∈ ((routes.map RouteCall.del).foldl RouteCall.apply kernel).cache ↔
      entry ∈ kernel.cache ∧ ∀ route ∈ routes, entry.cacheKey ≠ route.cacheKey := by
  induction routes generalizing kernel with
  | nil => simp
  | cons route rest ih =>
      simp only [List.map_cons, List.foldl_cons, ih, cache_apply_del, List.mem_filter,
        Bool.not_eq_true', sameEntry_eq_false_iff, List.forall_mem_cons, and_assoc]

/-- A run of additions that do not compete puts every route in, over what had its key. -/
theorem mem_cache_additions {routes : List (Route F)} {kernel : SimulatedKernel F}
    (hfault : kernel.faults.addRoute = none)
    (hnodup : (kernel.cache.map Route.cacheKey).Nodup)
    (hkeys : ∀ route ∈ routes, ∀ other ∈ routes, route.cacheKey = other.cacheKey → route = other)
    {entry : Route F} :
    entry ∈ ((routes.map RouteCall.add).foldl RouteCall.apply kernel).cache ↔
      entry ∈ routes ∨
        entry ∈ kernel.cache ∧ ∀ route ∈ routes, entry.cacheKey ≠ route.cacheKey := by
  induction routes generalizing kernel with
  | nil => simp
  | cons route rest ih =>
      have hcache : ((RouteCall.add route).apply kernel).cache = store route kernel.cache := by
        rw [cache_apply_add, if_pos hfault]
      have hfault' : ((RouteCall.add route).apply kernel).faults.addRoute = none := by
        rw [(frame_apply (.add route) kernel).2.2, hfault]
      have hstored := ih hfault' (nodup_apply hnodup (.add route))
        (fun first hfirst second hsecond =>
          hkeys first (List.mem_cons_of_mem _ hfirst) second (List.mem_cons_of_mem _ hsecond))
      rw [List.map_cons, List.foldl_cons, hstored, hcache, mem_store_iff hnodup,
        List.forall_mem_cons, List.mem_cons]
      -- the first route may come again, and then it is the later one that stays
      have hagain : ∀ other ∈ rest, route.cacheKey = other.cacheKey → route ∈ rest :=
        fun other hother hkey =>
          hkeys route List.mem_cons_self other (List.mem_cons_of_mem _ hother) hkey ▸ hother
      grind

theorem cache_additions_of_fault {routes : List (Route F)} {kernel : SimulatedKernel F}
    (hfault : kernel.faults.addRoute ≠ none) :
    ((routes.map RouteCall.add).foldl RouteCall.apply kernel).cache = kernel.cache := by
  induction routes generalizing kernel with
  | nil => rfl
  | cons route rest ih =>
      have hfault' : ((RouteCall.add route).apply kernel).faults.addRoute ≠ none := by
        rwa [(frame_apply (.add route) kernel).2.2]
      rw [List.map_cons, List.foldl_cons, ih hfault', cache_apply_add, if_neg hfault]

theorem frame_foldl_apply (calls : List (RouteCall F)) (kernel : SimulatedKernel F) :
    (calls.foldl RouteCall.apply kernel).registered = kernel.registered ∧
      (calls.foldl RouteCall.apply kernel).openSockets = kernel.openSockets ∧
      (calls.foldl RouteCall.apply kernel).faults = kernel.faults := by
  induction calls generalizing kernel with
  | nil => exact ⟨rfl, rfl, rfl⟩
  | cons call rest ih =>
      obtain ⟨hregistered, hsockets, hfaults⟩ := frame_apply call kernel
      rw [List.foldl_cons, ← hregistered, ← hsockets, ← hfaults]
      exact ih (call.apply kernel)

theorem frame_addInterface (slot : SlotIndex) (iface : Interface) (kernel : SimulatedKernel F) :
    (addInterface slot iface kernel).2.cache = kernel.cache ∧
      (addInterface slot iface kernel).2.openSockets = kernel.openSockets ∧
      (addInterface slot iface kernel).2.faults = kernel.faults := by
  cases hencode : iface.encode slot F with
  | error cause => simp [addInterface, record, hencode]
  | ok control =>
      cases hfault : kernel.faults.addInterface.lookup iface.name <;>
        simp [addInterface, record, hencode, hfault]

/-! ### Looking an entry up -/

def cached? (origin group : F.Addr) (entries : List (Route F)) : Option (Route F) :=
  entries.find? fun entry => entry.cacheKey = (origin, group)

theorem cached?_eq_some_iff {entries : List (Route F)}
    (hnodup : (entries.map Route.cacheKey).Nodup) {origin group : F.Addr} {entry : Route F} :
    cached? origin group entries = some entry ↔
      entry ∈ entries ∧ entry.cacheKey = (origin, group) := by
  constructor
  · intro hfind
    exact ⟨List.mem_of_find?_eq_some hfind, by simpa using List.find?_some hfind⟩
  · rintro ⟨hmem, hkey⟩
    have hsome : (cached? origin group entries).isSome = true :=
      List.find?_isSome.mpr ⟨entry, hmem, by simpa using hkey⟩
    obtain ⟨found, hfound⟩ := Option.isSome_iff_exists.mp hsome
    have hsame : found.cacheKey = (origin, group) := by simpa using List.find?_some hfound
    rw [hfound, List.inj_on_of_nodup_map hnodup (List.mem_of_find?_eq_some hfound) hmem
      (hsame.trans hkey.symm)]

theorem cached?_congr {entries others : List (Route F)}
    (hnodup : (entries.map Route.cacheKey).Nodup) (hnodup' : (others.map Route.cacheKey).Nodup)
    (hmem : ∀ entry, entry ∈ entries ↔ entry ∈ others) (origin group : F.Addr) :
    cached? origin group entries = cached? origin group others := by
  refine Option.ext fun entry => ?_
  rw [cached?_eq_some_iff hnodup, cached?_eq_some_iff hnodup', hmem]

/-! ### Opening, claiming and closing -/

theorem openSocket_of_some {kernel : SimulatedKernel F} {errno : Errno}
    (hfault : kernel.faults.openSocket = some errno) :
    Kernel.openSocket kernel = (.error (.errno errno), kernel.record .openSocket) := by
  simp [Kernel.openSocket, openSocket, record, hfault]

theorem openSocket_of_none {kernel : SimulatedKernel F}
    (hfault : kernel.faults.openSocket = none) :
    Kernel.openSocket kernel =
      (.ok (), { kernel.record .openSocket with openSockets := kernel.openSockets + 1 }) := by
  simp [Kernel.openSocket, openSocket, record, hfault]

theorem claim_eq (kernel : SimulatedKernel F) :
    Kernel.claim kernel = (succeedUnless kernel.faults.init, kernel.record .init) := rfl

theorem state_release (kernel : SimulatedKernel F) :
    (Kernel.release kernel).2 = kernel.record .done := rfl

theorem close_eq (kernel : SimulatedKernel F) :
    Kernel.close kernel =
      { kernel.record .close with
        openSockets := kernel.openSockets - 1, cache := [], registered := [] } := rfl

end SimulatedKernel

end Multicast
