import DisplayServer.Proofs.Course
import Mathlib.Logic.Function.Basic
import Mathlib.Logic.Relation

/-! # How windows hang together

A surface and its window surface name each other, and so do a window surface and its toplevel. The
*links* of a connection are these names and the roles of the surfaces, and nothing else. They form a
machine of their own: `Links.Move` lists its moves, in each of which both ends of a link change
together. A move keeps the links in agreement (`Links.Move.agree`) and takes no role away from a
surface (`Links.Move.role`). An operation creates a surface, or makes some of the moves, one after
another (`Connection.Change.links_evolve`), so what is true of a move is true of a run.
-/

namespace DisplayServer

open Function (update)

namespace Arena

variable {κ α β : Type} [DecidableEq κ] {arena : Arena κ α} {key : κ} {look : α → β}

/-- What an onlooker sees of the object under each key. -/
def view (arena : Arena κ α) (look : α → β) (key : κ) : Option β :=
  (arena.get? key).map look

/-- What a key finds is seen. -/
theorem view_of_get? {value : α} (found : arena.get? key = some value) :
    arena.view look key = some (look value) :=
  congrArg (Option.map look) found

/-- What is seen is there. -/
theorem exists_of_view {seen : β} (sees : arena.view look key = some seen) :
    ∃ value, arena.get? key = some value ∧ look value = seen :=
  Option.map_eq_some_iff.mp sees

private theorem view_eq_none (absent : key ∉ arena.keys) : arena.view look key = none :=
  congrArg (Option.map look) (get?_eq_none_of_notMem absent)

/-- What is seen of an arena after an insertion. -/
theorem view_insert (arena : Arena κ α) (key : κ) (value : α) :
    (arena.insert key value).view look = update (arena.view look) key (some (look value)) := by
  funext other
  rw [view, get?_insert, Function.update_apply]
  split <;> rfl

/-- What is seen of an arena after a removal. -/
theorem view_erase (arena : Arena κ α) (key : κ) :
    (arena.erase key).view look = update (arena.view look) key none := by
  funext other
  rw [view, get?_erase, Function.update_apply]
  split <;> rfl

/-- What is seen of an arena after a change. -/
theorem view_modify {value : α} (found : arena.get? key = some value) (change : α → α) :
    (arena.modify key change).view look =
      update (arena.view look) key (some (look (change value))) := by
  funext other
  rw [view, get?_modify, Function.update_apply]
  split
  · rename_i same
    rw [same, found]
    rfl
  · rfl

/-- A change that the onlooker does not see. -/
theorem view_modify_of_eq {change : α → α}
    (same : ∀ value, arena.get? key = some value → look (change value) = look value) :
    (arena.modify key change).view look = arena.view look := by
  funext other
  rw [view, get?_modify]
  split
  · rename_i here
    subst here
    cases found : arena.get? other with
    | none => rw [view, found]; rfl
    | some value =>
      rw [view, found]
      exact congrArg some (same value found)
  · rfl

/-- A change of every object that is not seen leaves the view alone. -/
theorem view_mapValues_of_eq {change : α → α} (same : ∀ value, look (change value) = look value) :
    (arena.mapValues fun _ => change).view look = arena.view look := by
  funext key
  rw [view, get?_mapValues, Option.map_map, view]
  exact congrFun (congrArg Option.map (funext same)) _

end Arena

/-- How the surfaces, the window surfaces and the toplevels of a connection name each other. -/
structure Links where
  /-- The role of a live surface, and the window surface it names. -/
  surface : SurfaceId → Option (Option Role × Option WindowSurfaceId)
  /-- The surface and the toplevel that a live window surface names. -/
  window : WindowSurfaceId → Option (SurfaceId × Option ToplevelId)
  /-- The window surface and the surface that a live toplevel names. -/
  toplevel : ToplevelId → Option (WindowSurfaceId × SurfaceId)

namespace Links

/-- Whoever is named is live and names back, and what has a window surface is a window. -/
structure Agree (links : Links) : Prop where
  window : ∀ id surface toplevel, links.window id = some (surface, toplevel) →
    links.surface surface = some (some .window, some id)
  surface : ∀ id role window, links.surface id = some (role, some window) →
    (links.window window).map Prod.fst = some id
  toplevel : ∀ id window surface,
    links.toplevel id = some (window, surface) ↔ links.window window = some (surface, some id)

/-- The links with one more surface. -/
def addSurface (links : Links) (id : SurfaceId) : Links :=
  { links with surface := update links.surface id (some (none, none)) }

/-- The moves of the links, apart from the creation of a surface. -/
inductive Move : Links → Links → Prop where
  | removeSurface {links : Links} {id : SurfaceId} {role : Option Role}
      (found : links.surface id = some (role, none)) :
      Move links { links with surface := update links.surface id none }
  | giveRole {links : Links} {id : SurfaceId} {role : Role}
      (found : links.surface id = some (none, none)) :
      Move links { links with surface := update links.surface id (some (some role, none)) }
  | openWindow {links : Links} {id : WindowSurfaceId} {surface : SurfaceId}
      (fresh : links.window id = none) (found : links.surface surface = some (some .window, none)) :
      Move links { links with
        surface := update links.surface surface (some (some .window, some id))
        window := update links.window id (some (surface, none)) }
  | closeWindow {links : Links} {id : WindowSurfaceId} {surface : SurfaceId} {role : Option Role}
      (found : links.window id = some (surface, none))
      (named : links.surface surface = some (role, some id)) :
      Move links { links with
        surface := update links.surface surface (some (role, none))
        window := update links.window id none }
  | openToplevel {links : Links} {id : ToplevelId} {window : WindowSurfaceId} {surface : SurfaceId}
      (fresh : links.toplevel id = none) (found : links.window window = some (surface, none)) :
      Move links { links with
        window := update links.window window (some (surface, some id))
        toplevel := update links.toplevel id (some (window, surface)) }
  | closeToplevel {links : Links} {id : ToplevelId} {window : WindowSurfaceId} {surface : SurfaceId}
      (found : links.window window = some (surface, some id)) :
      Move links { links with
        window := update links.window window (some (surface, none))
        toplevel := update links.toplevel id none }

/-- The links move on, by any number of moves. -/
abbrev Moves : Links → Links → Prop :=
  Relation.ReflTransGen Move

/-- What an operation does to the links: it creates a surface, or makes moves. -/
inductive Evolves (links : Links) : Links → Prop where
  | created {id : SurfaceId} (fresh : links.surface id = none) : Evolves links (links.addSurface id)
  | moved {moved : Links} (moves : Moves links moved) : Evolves links moved

variable {links moved : Links}

/-- **A move keeps the links in agreement.** -/
theorem Move.agree (move : Move links moved) (agree : links.Agree) : moved.Agree := by
  obtain ⟨window, surface, toplevel⟩ := agree
  -- The ends of the link that changes are known, and all other links are as before.
  cases move with
  | removeSurface found | giveRole found | openWindow fresh found
  | closeWindow found named | openToplevel fresh found =>
    constructor
    case window => grind [Function.update_apply]
    case surface => grind [Function.update_apply]
    case toplevel => grind [Function.update_apply]
  | @closeToplevel id window' surface' found =>
    have named : links.toplevel id = some (window', surface') := (toplevel ..).mpr found
    constructor
    case window => grind [Function.update_apply]
    case surface => grind [Function.update_apply]
    case toplevel => grind [Function.update_apply]

/-- Links that agree do so after every move. -/
theorem Moves.agree (moves : Moves links moved) (agree : links.Agree) : moved.Agree := by
  induction moves with
  | refl => exact agree
  | tail _ move ih => exact move.agree ih

/-- A move brings no surface to life, and takes no role away from one that stays alive. -/
theorem Move.role (move : Move links moved) {id : SurfaceId} {role : Role}
    (had : links.surface id = none ∨ ∃ window, links.surface id = some (some role, window)) :
    moved.surface id = none ∨ ∃ window, moved.surface id = some (some role, window) := by
  cases move <;> grind [Function.update_apply]

private theorem agree_addSurface (agree : links.Agree) {id : SurfaceId}
    (fresh : links.surface id = none) : (links.addSurface id).Agree := by
  obtain ⟨window, surface, toplevel⟩ := agree
  unfold addSurface
  constructor
  case window => grind [Function.update_apply]
  case surface => grind [Function.update_apply]
  case toplevel => exact toplevel

/-- **Whatever an operation does, the links stay in agreement.** -/
theorem Evolves.agree (evolves : Evolves links moved) (agree : links.Agree) : moved.Agree := by
  cases evolves with
  | created fresh => exact agree_addSurface agree fresh
  | moved moves => exact moves.agree agree

/-- **A surface that has a role keeps it as long as it lives.** -/
theorem Evolves.role (evolves : Evolves links moved) {id : SurfaceId} {role : Role}
    {window window' : Option WindowSurfaceId} {seen : Option Role}
    (had : links.surface id = some (some role, window))
    (lives : moved.surface id = some (seen, window')) : seen = some role := by
  cases evolves with
  | @created other fresh =>
    have apart : id ≠ other := by
      rintro rfl
      cases had.symm.trans fresh
    change update links.surface other (some (none, none)) id = some (seen, window') at lives
    rw [Function.update_of_ne apart, had] at lives
    cases lives
    rfl
  | moved moves =>
    have kept : moved.surface id = none ∨
        ∃ window, moved.surface id = some (some role, window) := by
      clear lives
      induction moves with
      | refl => exact .inr ⟨window, had⟩
      | tail _ move ih => exact move.role ih
    rw [lives] at kept
    obtain dead | ⟨_, same⟩ := kept
    · cases dead
    · cases same
      rfl

/-- A surface with a window surface is a window. -/
theorem Agree.role (agree : links.Agree) {id : SurfaceId} {role : Option Role}
    {window : WindowSurfaceId} (named : links.surface id = some (role, some window)) :
    role = some .window := by
  obtain ⟨⟨surface, toplevel⟩, live, same⟩ := Option.map_eq_some_iff.mp (agree.surface _ _ _ named)
  cases same
  have back := agree.window _ _ _ live
  rw [named] at back
  cases back
  rfl

/-- The links without the window surface of a surface, and without its toplevel. -/
def withoutWindow (links : Links) (id : WindowSurfaceId) (surface : SurfaceId)
    (toplevel : Option ToplevelId) : Links where
  surface := update links.surface surface (some (some .window, none))
  window := update links.window id none
  toplevel := toplevel.elim links.toplevel fun toplevel => update links.toplevel toplevel none

/-- A window surface goes, after its toplevel. -/
theorem Agree.closeWindow (agree : links.Agree) {id : WindowSurfaceId} {surface : SurfaceId}
    {toplevel : Option ToplevelId} (found : links.window id = some (surface, toplevel)) :
    Moves links (links.withoutWindow id surface toplevel) := by
  have named := agree.window id surface toplevel found
  cases toplevel with
  | none => exact .single (.closeWindow found named)
  | some toplevel =>
    let childless : Links := { links with
      window := update links.window id (some (surface, none))
      toplevel := update links.toplevel toplevel none }
    have closed : Move links childless := .closeToplevel found
    have alone : childless.window id = some (surface, none) := Function.update_self ..
    have gone := Move.closeWindow alone (named : childless.surface surface = _)
    refine .tail (.single closed) ?_
    simpa only [childless, withoutWindow, Option.elim_some, Function.update_idem] using gone

end Links

private theorem Surface.role_of_assumeRole {surface changed : Surface} {role : Role}
    (taken : surface.assumeRole role = .ok changed) : changed.role = some role := by
  unfold assumeRole at taken
  split at taken
  · cases taken
    rfl
  · rename_i current had
    split at taken
    · rename_i same
      cases taken
      rw [had, same]
    · cases taken

namespace Connection

variable {server : Server} {host : Host} {operation : Operation} {old new client : Connection}

/-- The links of a connection. -/
def links (client : Connection) : Links where
  surface := client.surfaces.view fun surface => (surface.role, surface.windowSurface)
  window := client.windowSurfaces.view fun window => (window.surface, window.toplevel)
  toplevel := client.toplevels.view fun toplevel => (toplevel.windowSurface, toplevel.surface)

private theorem links_eq
    (surfaces : (new.surfaces.view fun surface => (surface.role, surface.windowSurface)) =
      old.surfaces.view fun surface => (surface.role, surface.windowSurface))
    (windows : (new.windowSurfaces.view fun window => (window.surface, window.toplevel)) =
      old.windowSurfaces.view fun window => (window.surface, window.toplevel))
    (toplevels : (new.toplevels.view fun toplevel => (toplevel.windowSurface, toplevel.surface)) =
      old.toplevels.view fun toplevel => (toplevel.windowSurface, toplevel.surface)) :
    new.links = old.links := by
  rw [links, links, surfaces, windows, toplevels]

private theorem links_modifySurface {id : SurfaceId} {surface : Surface}
    (found : client.surfaces.get? id = some surface) (change : Surface → Surface) :
    (client.modifySurface id change).links = { client.links with
      surface := update client.links.surface id
        (some ((change surface).role, (change surface).windowSurface)) } :=
  congrArg (fun surface => { client.links with surface }) (Arena.view_modify found change)

/-- Changing a surface but for its role and its window surface changes no link. -/
theorem links_modifySurface_of_eq {id : SurfaceId} {change : Surface → Surface}
    (same : ∀ surface, client.surfaces.get? id = some surface →
      (change surface).role = surface.role ∧
        (change surface).windowSurface = surface.windowSurface) :
    (client.modifySurface id change).links = client.links := by
  refine links_eq (Arena.view_modify_of_eq fun surface found => ?_) rfl rfl
  rw [(same surface found).1, (same surface found).2]

private theorem links_modifyWindow {id : WindowSurfaceId} {change : WindowSurface → WindowSurface}
    (same : ∀ window, client.windowSurfaces.get? id = some window →
      (change window).surface = window.surface ∧ (change window).toplevel = window.toplevel) :
    (client.modifyWindow id change).links = client.links := by
  refine links_eq rfl (Arena.view_modify_of_eq fun window found => ?_) rfl
  rw [(same window found).1, (same window found).2]

/-- A surface that takes on a role takes on its first. -/
theorem moves_assumeRole (agree : client.links.Agree) {id : SurfaceId} {surface changed : Surface}
    {role : Role} (found : client.surfaces.get? id = some surface)
    (taken : surface.assumeRole role = .ok changed) :
    Links.Moves client.links (client.modifySurface id fun _ => changed).links := by
  have seen : client.links.surface id = some (surface.role, surface.windowSurface) :=
    Arena.view_of_get? found
  unfold Surface.assumeRole at taken
  cases had : surface.role with
  | none =>
    simp only [had, Except.ok.injEq] at taken
    subst taken
    have windowless : surface.windowSurface = none := by
      cases named : surface.windowSurface with
      | none => rfl
      | some window =>
        rw [named, had] at seen
        cases agree.role seen
    rw [had, windowless] at seen
    rw [links_modifySurface found, windowless]
    exact .single (.giveRole seen)
  | some current =>
    simp only [had] at taken
    split at taken
    · cases taken
      rw [links_modifySurface_of_eq fun held live => ?_]
      cases found.symm.trans live
      exact ⟨rfl, rfl⟩
    · cases taken

private theorem links_addSurface (version : UInt32) :
    (client.addSurface version).2.links = client.links.addSurface (client.fresh .surface) :=
  congrArg (fun surface => { client.links with surface }) (Arena.view_insert ..)

/-- A window surface that is granted is linked with its surface. -/
theorem moves_getWindowSurface (agree : client.links.Agree) {id : SurfaceId} {grant : WindowGrant}
    (done : client.getWindowSurface id = .ok grant)
    (fresh : grant.isNew = true → client.fresh .windowSurface ∉ client.handles .windowSurface) :
    Links.Moves client.links grant.client.links := by
  obtain ⟨surface, changed, found, taken, granted⟩ := getWindowSurface_eq_ok done
  have asked := moves_assumeRole agree found taken
  obtain ⟨window, _, rfl⟩ | ⟨unanswered, rfl⟩ := granted
  · exact asked
  · let middle := client.modifySurface id fun _ => changed
    have held : middle.surfaces.get? id = some changed := by
      change (client.surfaces.modify id fun _ => changed).get? id = _
      rw [Arena.get?_modify, if_pos rfl, found]
      rfl
    have seen : middle.links.surface id = some (changed.role, changed.windowSurface) :=
      Arena.view_of_get? held
    have role : changed.role = some .window := Surface.role_of_assumeRole taken
    have windowless : changed.windowSurface = none := by
      cases named : changed.windowSurface with
      | none => rfl
      | some window =>
        -- A window surface that is named is live, and would have been the answer.
        rw [named] at seen
        obtain ⟨_, sees, _⟩ := Option.map_eq_some_iff.mp ((asked.agree agree).surface _ _ _ seen)
        obtain ⟨record, live, _⟩ := Arena.exists_of_view sees
        have live : middle.windowSurfaces.get? window = some record := live
        have answered : middle.windowSurfaceOf? id = some window := by
          simp [windowSurfaceOf?, held, named, Arena.contains, live]
        cases unanswered.symm.trans answered
    rw [role, windowless] at seen
    have unseen : middle.links.window (client.fresh .windowSurface) = none :=
      Arena.view_eq_none (fresh rfl)
    refine asked.tail ?_
    have opened := Links.Move.openWindow unseen seen
    rw [← role] at opened
    convert opened using 1
    exact congrArg₂ (fun surface window => { middle.links with surface, window })
      (Arena.view_modify held _) (Arena.view_insert ..)

/-- A toplevel that is given is linked with its window surface. -/
theorem moves_getToplevel {id : WindowSurfaceId} {size : Size} {toplevel : ToplevelId}
    {opened : Connection} (done : client.getToplevel id size = .ok (toplevel, opened))
    (fresh : client.fresh .toplevel ∉ client.handles .toplevel) :
    Links.Moves client.links opened.links := by
  obtain ⟨window, found, childless, rfl, rfl⟩ := getToplevel_eq_ok done
  have seen : client.links.window id = some (window.surface, none) :=
    childless ▸ Arena.view_of_get? found
  have unseen : client.links.toplevel (client.fresh .toplevel) = none := Arena.view_eq_none fresh
  have move := Links.Move.openToplevel unseen seen
  refine .single ?_
  convert move using 1
  refine congrArg₂ (fun window toplevel => { client.links with window, toplevel }) ?_ ?_
  · -- The window surface is changed twice: it names its toplevel, and it draws a serial.
    apply Eq.trans (Arena.view_modify_of_eq ?_) (Arena.view_modify found _)
    intro held live
    rw [Arena.get?_modify, if_pos rfl, found] at live
    cases live
    rfl
  · apply Eq.trans (Arena.view_modify_of_eq ?_) (Arena.view_insert ..)
    intro record _
    rfl

private theorem links_configure {id : ToplevelId} {size : Size} {serial : Serial}
    {configured : Connection} (done : client.configure id size = .ok (serial, configured)) :
    configured.links = client.links := by
  obtain ⟨toplevel, window, found, shown, _, rfl⟩ := configure_eq_ok done
  refine links_eq rfl (Arena.view_modify_of_eq fun held live => ?_)
    (Arena.view_modify_of_eq fun _ _ => rfl)
  cases shown.symm.trans live
  rfl

/-- A commit touches no links. -/
theorem links_commit {id : SurfaceId} {commit : Commit} (done : client.commit? id = some commit) :
    commit.client.links = client.links := by
  obtain ⟨surface, found⟩ := surface_of_commit? done
  obtain ⟨change, surfaces, promoted⟩ := surfaces_commit found done
  rw [commit?_frame done, surfaces]
  apply links_modifySurface_of_eq
  intro held live
  cases found.symm.trans live
  rw [promoted]
  exact ⟨rfl, rfl⟩

/-- A toplevel that is destroyed is unlinked from its window surface. -/
theorem moves_destroyToplevel (agree : client.links.Agree) {id : ToplevelId} {left : Connection}
    (done : client.destroyToplevel? id = some left) :
    Links.Moves client.links left.links := by
  obtain ⟨toplevel, found, rfl⟩ := destroyToplevel?_eq_some done
  have seen : client.links.toplevel id = some (toplevel.windowSurface, toplevel.surface) :=
    Arena.view_of_get? found
  have named := (agree.toplevel ..).mp seen
  obtain ⟨window, live, same⟩ := Arena.exists_of_view named
  have surface : window.surface = toplevel.surface := congrArg Prod.fst same
  refine .single ?_
  convert Links.Move.closeToplevel named using 1
  rw [← surface]
  exact congrArg₂ (fun window toplevel => { client.links with window, toplevel })
    (Arena.view_modify live _) (Arena.view_erase ..)

private theorem view_toplevelsWithout {id : WindowSurfaceId} {window : WindowSurface}
    (found : client.windowSurfaces.get? id = some window) :
    ((client.toplevelsWithout id).view fun toplevel =>
        (toplevel.windowSurface, toplevel.surface)) =
      window.toplevel.elim client.links.toplevel fun toplevel =>
        update client.links.toplevel toplevel none := by
  unfold toplevelsWithout
  rw [found, Option.bind_some]
  cases window.toplevel with
  | none => rfl
  | some toplevel => exact Arena.view_erase ..

/-- A window surface that is destroyed is unlinked, and its toplevel goes with it. -/
theorem moves_destroyWindowSurface (agree : client.links.Agree) {id : WindowSurfaceId}
    {left : Connection} (done : client.destroyWindowSurface? id = some left) :
    Links.Moves client.links left.links := by
  obtain ⟨window, found, rfl⟩ := destroyWindowSurface?_eq_some done
  have seen : client.links.window id = some (window.surface, window.toplevel) :=
    Arena.view_of_get? found
  obtain ⟨surface, live, same⟩ := Arena.exists_of_view (agree.window _ _ _ seen)
  have role : surface.role = some .window := congrArg Prod.fst same
  have named : surface.windowSurface = some id := congrArg Prod.snd same
  convert agree.closeWindow seen using 1
  rw [links, view_toplevelsWithout found, Arena.view_modify live, Arena.view_erase, if_pos named,
    role]
  rfl

/-- A surface that is destroyed takes its window surface and its toplevel along. -/
theorem moves_destroySurface (agree : client.links.Agree) {id : SurfaceId}
    {callbacks : List CallbackId} {left : Connection}
    (done : client.destroySurface? id = some (callbacks, left)) :
    Links.Moves client.links left.links := by
  obtain ⟨surface, found⟩ := surface_of_destroySurface? done
  have seen : client.links.surface id = some (surface.role, surface.windowSurface) :=
    Arena.view_of_get? found
  rw [destroySurface?_eq found done]
  cases named : surface.windowSurface with
  | none =>
    rw [named] at seen
    refine .single ?_
    convert Links.Move.removeSurface seen using 1
    exact congrArg (fun surface => { client.links with surface }) (Arena.view_erase ..)
  | some id' =>
    rw [named] at seen
    -- The window objects go first, and leave a surface without a window surface.
    obtain ⟨⟨owner, toplevel⟩, sees, same⟩ := Option.map_eq_some_iff.mp (agree.surface _ _ _ seen)
    obtain rfl : owner = id := same
    obtain ⟨window, live, same⟩ := Arena.exists_of_view sees
    have child : window.toplevel = toplevel := congrArg Prod.snd same
    refine (agree.closeWindow sees).tail ?_
    have windowless : (client.links.withoutWindow id' owner toplevel).surface owner =
      some (some .window, none) := Function.update_self ..
    convert Links.Move.removeSurface windowless using 1
    rw [links, view_toplevelsWithout live, child, Arena.view_erase, Arena.view_erase,
      Links.withoutWindow, Function.update_idem]
    rfl

/-- A handle that was drawn was not in use. -/
theorem Drawn.fresh_of_advanced {count : Nat} (drawn : old.Drawn count)
    (room : count + old.drawnUntil new ≤ UInt32.size) (advanced : new.nextIndex = old.nextIndex + 1)
    (kind : ObjectKind) : old.fresh kind ∉ old.handles kind := by
  rw [drawnUntil_of_advanced advanced] at room
  exact drawn.fresh_notMem room kind

/-- **What an operation does to the links.** -/
theorem Change.links_evolve (change : Change server host operation old new)
    (agree : old.links.Agree) {count : Nat} (drawn : old.Drawn count)
    (room : count + old.drawnUntil new ≤ UInt32.size) :
    old.links.Evolves new.links := by
  have still (same : new.links = old.links) : old.links.Evolves new.links :=
    .moved (by rw [same])
  cases change with
  | same | takeEvents _ | unbind | createPool _ _ | resizePool _ _ _ | createBuffer _ _ =>
    exact .moved .refl
  | @bind _ _ _ _ capability _ => cases capability.kind <;> exact .moved .refl
  | destroyPool =>
    rw [destroyPool_frame]
    exact .moved .refl
  | destroyBuffer =>
    rw [destroyBuffer_eq]
    exact .moved .refl
  | failRead _ failure =>
    rw [failure.frame]
    exact .moved .refl
  | createSurface =>
    rw [links_addSurface]
    exact .created (Arena.view_eq_none (drawn.fresh_of_advanced room rfl .surface))
  | attach _ _ _ =>
    apply still
    refine Eq.trans (links_modifySurface_of_eq ?_) ?_
    · intro surface _
      exact ⟨rfl, rfl⟩
    · rw [claim_frame, withdraw_frame]
      rfl
  | request found request =>
    cases request with
    | role taken => exact .moved (moves_assumeRole agree found taken)
    | _ =>
      apply still
      apply links_modifySurface_of_eq
      intro surface held
      cases found.symm.trans held
      exact ⟨rfl, rfl⟩
  | frame =>
    apply still
    simp only [addCallback, draw]
    split
    · rfl
    · exact links_modifySurface_of_eq fun _ _ => ⟨rfl, rfl⟩
  | commit done => exact still (links_commit done)
  | commitUnread done _ failure =>
    apply still
    rw [failure.frame]
    exact links_commit done
  | present done =>
    obtain ⟨_, _, rfl⟩ := present?_eq_some done
    exact still (links_modifySurface_of_eq fun _ _ => ⟨rfl, rfl⟩)
  | presentAll =>
    apply still
    refine links_eq (Arena.view_mapValues_of_eq fun surface => ?_) rfl rfl
    split <;> rfl
  | destroySurface done => exact .moved (moves_destroySurface agree done)
  | getWindowSurface done =>
    refine .moved (moves_getWindowSurface agree done fun isNew => ?_)
    obtain ⟨_, _, _, _, ⟨_, _, rfl⟩ | ⟨_, rfl⟩⟩ := getWindowSurface_eq_ok done
    · cases isNew
    · exact drawn.fresh_of_advanced room rfl .windowSurface
  | getToplevel done =>
    refine .moved (moves_getToplevel done ?_)
    obtain ⟨_, _, _, _, rfl⟩ := getToplevel_eq_ok done
    exact drawn.fresh_of_advanced room rfl .toplevel
  | sendConfigure done => exact still (links_configure done)
  | ackConfigure => exact still (links_modifyWindow fun _ _ => ⟨rfl, rfl⟩)
  | setWindowGeometry found _ =>
    apply still
    apply links_modifyWindow
    intro window held
    cases found.symm.trans held
    exact ⟨rfl, rfl⟩
  | missConfigure _ | setTitle | setAppId =>
    apply still
    refine links_eq rfl rfl (Arena.view_modify_of_eq ?_)
    intro toplevel _
    rfl
  | destroyWindowSurface done => exact .moved (moves_destroyWindowSurface agree done)
  | destroyToplevel done => exact .moved (moves_destroyToplevel agree done)

/-- A connection without objects has no links. -/
theorem agree_empty (id : ConnectionId) : ({ id } : Connection).links.Agree where
  window _ _ _ seen := by cases seen
  surface _ _ _ seen := by cases seen
  toplevel _ _ _ := ⟨nofun, nofun⟩

/-- The connection with a fresh toplevel on a window surface, before a size is suggested to it. -/
def withToplevel (client : Connection) (id : WindowSurfaceId) (surface : SurfaceId) (size : Size) :
    Connection :=
  { client with
    toplevels :=
      client.toplevels.insert (client.fresh .toplevel) { windowSurface := id, surface, size }
    windowSurfaces := client.windowSurfaces.modify id fun window =>
      { window with toplevel := some (client.fresh .toplevel) }
    nextIndex := client.nextIndex + 1 }

/-- A window surface without a toplevel is given one, which then is suggested its first size. -/
theorem getToplevel_eq {id : WindowSurfaceId} {window : WindowSurface}
    (found : client.windowSurfaces.get? id = some window) (childless : window.toplevel = none)
    (size : Size) : client.getToplevel id size =
      ((client.withToplevel id window.surface size).configure (client.fresh .toplevel) size).map
        fun configured => (client.fresh .toplevel, configured.2) := by
  simp only [getToplevel, found, childless, Option.isSome_none, Bool.false_eq_true, if_false]
  change (client.withToplevel id window.surface size).configure (client.fresh .toplevel) size >>=
    (fun configured => pure (client.fresh .toplevel, configured.2)) = _
  cases (client.withToplevel id window.surface size).configure (client.fresh .toplevel) size <;> rfl

/-- **The first suggestion of a size never fails.** -/
theorem configure_withToplevel {id : WindowSurfaceId} {window : WindowSurface}
    (found : client.windowSurfaces.get? id = some window) (size : Size) :
    ∃ serial configured, (client.withToplevel id window.surface size).configure
      (client.fresh .toplevel) size = .ok (serial, configured) := by
  have toplevel : (client.withToplevel id window.surface size).toplevels.get?
      (client.fresh .toplevel) = some { windowSurface := id, surface := window.surface, size } := by
    rw [withToplevel, Arena.get?_insert, if_pos rfl]
  have parent : (client.withToplevel id window.surface size).windowSurfaces.get? id =
      some { window with toplevel := some (client.fresh .toplevel) } := by
    rw [withToplevel, Arena.get?_modify, if_pos rfl, found]
    rfl
  simp only [configure, toplevel, parent]
  exact ⟨_, _, rfl⟩

/-- Asking again for the window surface of a surface changes nothing. -/
theorem getWindowSurface_of_named (agree : client.links.Agree)
    (distinct : client.surfaces.keys.Nodup) {id : SurfaceId} {surface : Surface}
    (found : client.surfaces.get? id = some surface) {window : WindowSurfaceId}
    (named : surface.windowSurface = some window) :
    client.getWindowSurface id = .ok { id := window, client, isNew := false } := by
  have seen : client.links.surface id = some (surface.role, some window) :=
    named ▸ Arena.view_of_get? found
  obtain ⟨_, sees, _⟩ := Option.map_eq_some_iff.mp (agree.surface _ _ _ seen)
  obtain ⟨record, live, _⟩ := Arena.exists_of_view sees
  have same : (client.modifySurface id fun _ => surface) = client := by
    rw [modifySurface, Arena.modify_self distinct found]
  have answered : client.windowSurfaceOf? id = some window := by
    simp [windowSurfaceOf?, found, named, Arena.contains, live]
  simp only [getWindowSurface, found, Surface.assumeRole, agree.role seen, if_true, same, answered]

end Connection

/-- A client makes a window of a surface, closes its toplevel and opens another one. -/
def Script.windowed : Script :=
  let client : ConnectionId := ⟨0⟩
  let window : WindowSurfaceId := ⟨client, 1⟩
  [.connect, .createSurface client 4, .getWindowSurface ⟨client, 0⟩, .getToplevel window,
    .destroyToplevel ⟨client, 2⟩, .getToplevel window].map fun operation => (.withFile, operation)

namespace Server

/-- The windows are in order. -/
structure WindowsInOrder (server : Server) : Prop where
  surface_of_window : ∀ id window, server.windowSurface? id = some window →
    ∃ surface, server.surface? window.surface = some surface ∧
      surface.windowSurface = some id ∧ surface.role = some .window
  window_of_surface : ∀ id surface window, server.surface? id = some surface →
    surface.windowSurface = some window →
    ∃ record, server.windowSurface? window = some record ∧ record.surface = id
  window_of_toplevel : ∀ id toplevel, server.toplevel? id = some toplevel →
    ∃ window, server.windowSurface? toplevel.windowSurface = some window ∧
      window.toplevel = some id ∧ toplevel.surface = window.surface
  toplevel_of_window : ∀ id window toplevel, server.windowSurface? id = some window →
    window.toplevel = some toplevel →
    ∃ record, server.toplevel? toplevel = some record ∧ record.windowSurface = id
  /-- A role is given to a surface that has none, or has this one. -/
  role : ∀ id surface role, server.surface? id = some surface →
    ((server.giveRole id role).answer = .ok () ↔ surface.role = none ∨ surface.role = some role)
  /-- A surface that has a window surface is answered the one it has, and nothing changes. -/
  again : ∀ id surface window, server.surface? id = some surface →
    surface.windowSurface = some window →
    server.getWindowSurface id = { answer := .ok window, state := server, log := [] }
  /-- A window surface gets a toplevel, and the size that is suggested to it then reaches it. -/
  opened : ∀ id client window, server.connection? id.connection = some client →
    client.windowSurfaces.get? id = some window → window.toplevel = none →
    ∃ serial configured,
      (client.withToplevel id window.surface server.config.defaultWindowSize).configure
        (client.fresh .toplevel) server.config.defaultWindowSize = .ok (serial, configured) ∧
      server.getToplevel id =
        { answer := .ok (client.fresh .toplevel)
          state := server.putBack configured
          log := [.toplevelCreated] }
  /-- A toplevel is refused to a window surface that has a live one, and to no other. -/
  refused : ∀ id window, server.windowSurface? id = some window →
    ((∃ cause, (server.getToplevel id).answer = .error cause) ↔
      ∃ toplevel record, window.toplevel = some toplevel ∧ server.toplevel? toplevel = some record)

section Windows

variable {server : Server} {host : Host} {operation : Operation} {accepted : Nat}
  {drawn : ConnectionId → Nat} {config : Config}

/-- A window surface is live if its connection is and keeps it. -/
theorem windowSurface?_eq_some {id : WindowSurfaceId} {window : WindowSurface} :
    server.windowSurface? id = some window ↔
      ∃ client, server.connection? id.connection = some client ∧
        client.windowSurfaces.get? id = some window :=
  Option.bind_eq_some_iff

/-- A toplevel is live if its connection is and keeps it. -/
theorem toplevel?_eq_some {id : ToplevelId} {toplevel : Toplevel} :
    server.toplevel? id = some toplevel ↔
      ∃ client, server.connection? id.connection = some client ∧
        client.toplevels.get? id = some toplevel :=
  Option.bind_eq_some_iff

/-- After a script in range, the links of every connection are in agreement. -/
theorem agree_after (script : Script) (range : (Server.start config).state.InRange script) :
    ∀ id client, (after config script).connection? id = some client → client.links.Agree := by
  refine after_induction (motive := fun _ server => ∀ id client,
    server.connection? id = some client → client.links.Agree) ?_ ?_ script range
  · intro id client live
    cases live
  · intro script host operation range agree id new live
    have ready := ready_after range
    rcases ready.connection? ready.room live with ⟨_, rfl, _⟩ | ⟨old, found, change⟩
    · exact Connection.agree_empty id
    · obtain ⟨behind, room⟩ := ready.client found live
      have before := agree id old found
      exact (change.links_evolve before behind room).agree before

/-- A surface keeps its role through an operation that it survives. -/
theorem Ready.role_next (ready : server.Ready host operation accepted drawn)
    (agree : ∀ id client, server.connection? id = some client → client.links.Agree)
    {id : SurfaceId} {before later : Surface} {role : Role}
    (live : server.surface? id = some before) (had : before.role = some role)
    (lives : (server.next host operation).surface? id = some later) : later.role = some role := by
  obtain ⟨client, connected, found⟩ := surface?_eq_some.mp live
  obtain ⟨new, reached, held⟩ := surface?_eq_some.mp lives
  rcases ready.connection? ready.room reached with ⟨_, _, dead, _⟩ | ⟨old, here, change⟩
  · exact (dead (Arena.mem_keys_of_get? connected)).elim
  · cases connected.symm.trans here
    obtain ⟨behind, room⟩ := ready.client connected reached
    have evolves := change.links_evolve (agree _ client connected) behind room
    have seen : client.links.surface id = some (some role, before.windowSurface) :=
      had ▸ Arena.view_of_get? found
    exact evolves.role seen (Arena.view_of_get? held)

/-- **A role is for life.** -/
theorem role_after {front back : Script}
    (range : (Server.start config).state.InRange (front ++ back)) {id : SurfaceId}
    {before later : Surface} {role : Role} (live : (after config front).surface? id = some before)
    (had : before.role = some role)
    (lives : (after config (front ++ back)).surface? id = some later) :
    later.role = some role := by
  induction back using List.reverseRecOn generalizing later with
  | nil =>
    rw [List.append_nil, live] at lives
    cases lives
    exact had
  | append_singleton back entry ih =>
    rw [← List.append_assoc] at range lives
    cases middle : (after config (front ++ back)).surface? id with
    | none =>
      -- A surface that has died does not come back.
      cases (surface?_of_ceased range live middle).symm.trans lives
    | some surface =>
      rw [after_concat] at lives
      exact (ready_after range).role_next (agree_after _ range.of_append) middle
        (ih range.of_append middle) lives

/-- A role is given to a surface that has none, or has this one. -/
theorem answer_giveRole {id : SurfaceId} {surface : Surface}
    (live : server.surface? id = some surface) (role : Role) :
    (server.giveRole id role).answer = .ok () ↔
      surface.role = none ∨ surface.role = some role := by
  obtain ⟨client, connected, found⟩ := surface?_eq_some.mp live
  simp only [Server.giveRole, Server.onSurface, Server.onConnection, connected, Connection.request,
    found, Surface.assumeRole]
  cases surface.role with
  | none => exact ⟨fun _ => .inl rfl, fun _ => rfl⟩
  | some current =>
    simp only
    by_cases same : current = role
    · rw [if_pos same, same]
      exact ⟨fun _ => .inr rfl, fun _ => rfl⟩
    · rw [if_neg same]
      constructor
      · intro answered
        cases answered
      · rintro (unset | had)
        · cases unset
        · exact (same (Option.some.inj had)).elim

/-- To ask again for the window surface of a surface gives the same one and changes nothing. -/
theorem Accounted.getWindowSurface_of_named (accounted : server.Accounted accepted drawn)
    (agree : ∀ id client, server.connection? id = some client → client.links.Agree)
    {id : SurfaceId} {surface : Surface} {window : WindowSurfaceId}
    (live : server.surface? id = some surface) (named : surface.windowSurface = some window) :
    server.getWindowSurface id = { answer := .ok window, state := server, log := [] } := by
  obtain ⟨client, connected, found⟩ := surface?_eq_some.mp live
  have distinct := (accounted.clients _ client connected).nodup .surface
  have granted :=
    Connection.getWindowSurface_of_named (agree _ client connected) distinct found named
  have same : server.putBack client = server := by
    have kept := Arena.modify_self accounted.nodup connected
    rw [← accounted.named _ client connected] at kept
    rw [putBack, kept]
  simp only [Server.getWindowSurface, connected, granted, same]
  rfl

/-- A toplevel is opened, and a size suggested to it. -/
theorem getToplevel_of_childless {id : WindowSurfaceId} {client : Connection}
    {window : WindowSurface} (connected : server.connection? id.connection = some client)
    (found : client.windowSurfaces.get? id = some window) (childless : window.toplevel = none) :
    ∃ serial configured,
      (client.withToplevel id window.surface server.config.defaultWindowSize).configure
        (client.fresh .toplevel) server.config.defaultWindowSize = .ok (serial, configured) ∧
      server.getToplevel id =
        { answer := .ok (client.fresh .toplevel)
          state := server.putBack configured
          log := [.toplevelCreated] } := by
  obtain ⟨serial, configured, suggested⟩ :=
    Connection.configure_withToplevel found server.config.defaultWindowSize
  refine ⟨serial, configured, suggested, ?_⟩
  simp only [Server.getToplevel, Server.onConnection, connected]
  rw [Connection.getToplevel_eq found childless, suggested]
  rfl

/-- A toplevel is refused to a window surface that has one, and to no other. -/
theorem answer_getToplevel {id : WindowSurfaceId} {window : WindowSurface}
    (live : server.windowSurface? id = some window) :
    (∃ cause, (server.getToplevel id).answer = .error cause) ↔ window.toplevel ≠ none := by
  obtain ⟨client, connected, found⟩ := windowSurface?_eq_some.mp live
  cases childless : window.toplevel with
  | none =>
    obtain ⟨_, _, _, opened⟩ := getToplevel_of_childless connected found childless
    rw [opened]
    constructor
    · intro ⟨cause, failed⟩
      cases failed
    · intro parent
      exact (parent rfl).elim
  | some toplevel =>
    simp only [Server.getToplevel, Server.onConnection, connected, Connection.getToplevel, found,
      childless, Option.isSome_some, if_true]
    exact ⟨fun _ => Option.some_ne_none _, fun _ => ⟨.alreadyConstructed, rfl⟩⟩

/-- Where the links of every connection agree, windows are in order. -/
theorem Accounted.windowsInOrder (accounted : server.Accounted accepted drawn)
    (agree : ∀ id client, server.connection? id = some client → client.links.Agree) :
    server.WindowsInOrder := by
  have toplevel_of_window (id : WindowSurfaceId) (window : WindowSurface) (toplevel : ToplevelId)
      (live : server.windowSurface? id = some window) (named : window.toplevel = some toplevel) :
      ∃ record, server.toplevel? toplevel = some record ∧ record.windowSurface = id := by
    obtain ⟨client, connected, found⟩ := windowSurface?_eq_some.mp live
    have seen : client.links.window id = some (window.surface, some toplevel) :=
      named ▸ Arena.view_of_get? found
    obtain ⟨record, held, same⟩ :=
      Arena.exists_of_view (((agree _ client connected).toplevel ..).mpr seen)
    have placed := accounted.connection?_of_listed connected (Arena.mem_keys_of_get? held)
    exact ⟨record, toplevel?_eq_some.mpr ⟨client, placed, held⟩, congrArg Prod.fst same⟩
  constructor
  case surface_of_window =>
    intro id window live
    obtain ⟨client, connected, found⟩ := windowSurface?_eq_some.mp live
    obtain ⟨surface, held, same⟩ :=
      Arena.exists_of_view ((agree _ client connected).window _ _ _ (Arena.view_of_get? found))
    have placed := accounted.connection?_of_listed connected (Arena.mem_keys_of_get? held)
    exact ⟨surface, surface?_eq_some.mpr ⟨client, placed, held⟩, congrArg Prod.snd same,
      congrArg Prod.fst same⟩
  case window_of_surface =>
    intro id surface window live named
    obtain ⟨client, connected, found⟩ := surface?_eq_some.mp live
    have seen : client.links.surface id = some (surface.role, some window) :=
      named ▸ Arena.view_of_get? found
    obtain ⟨_, sees, same⟩ :=
      Option.map_eq_some_iff.mp ((agree _ client connected).surface _ _ _ seen)
    obtain ⟨record, held, rfl⟩ := Arena.exists_of_view sees
    have placed := accounted.connection?_of_listed connected (Arena.mem_keys_of_get? held)
    exact ⟨record, windowSurface?_eq_some.mpr ⟨client, placed, held⟩, same⟩
  case window_of_toplevel =>
    intro id toplevel live
    obtain ⟨client, connected, found⟩ := toplevel?_eq_some.mp live
    obtain ⟨window, held, same⟩ := Arena.exists_of_view
      (((agree _ client connected).toplevel ..).mp (Arena.view_of_get? found))
    have placed := accounted.connection?_of_listed connected (Arena.mem_keys_of_get? held)
    exact ⟨window, windowSurface?_eq_some.mpr ⟨client, placed, held⟩, congrArg Prod.snd same,
      (congrArg Prod.fst same).symm⟩
  case toplevel_of_window => exact toplevel_of_window
  case role => exact fun id surface role live => answer_giveRole live role
  case again =>
    exact fun id surface window live named => accounted.getWindowSurface_of_named agree live named
  case opened =>
    exact fun id client window connected found childless =>
      getToplevel_of_childless connected found childless
  case refused =>
    intro id window live
    rw [answer_getToplevel live, Option.ne_none_iff_exists']
    constructor
    · rintro ⟨toplevel, named⟩
      obtain ⟨record, lives, _⟩ := toplevel_of_window id window toplevel live named
      exact ⟨toplevel, record, named, lives⟩
    · rintro ⟨toplevel, record, named, _⟩
      exact ⟨toplevel, named⟩

/-- **Windows hang together.** After every script in range the surfaces, the window surfaces and the
toplevels that name each other do so mutually, and the requests that rest on it answer accordingly.
A surface keeps its role as long as it lives, whatever becomes of its window. -/
theorem windows_hang_together (config : Config) (script : Script)
    (range : (Server.start config).state.InRange script) :
    (after config script).WindowsInOrder ∧
      ∀ front back, script = front ++ back → ∀ id before later role,
        (after config front).surface? id = some before → before.role = some role →
        (after config script).surface? id = some later → later.role = some role := by
  constructor
  · exact (accounted_after script range).windowsInOrder (agree_after script range)
  · rintro front back rfl id before later role live had lives
    exact role_after range live had lives

/-- A window that lost its toplevel and got another one hangs together with its surface and with the
new toplevel, and gets no third one. -/
theorem windows_hang_together_windowed :
    (Server.start {}).state.InRange Script.windowed ∧
      (∃ surface, (after {} Script.windowed).surface? ⟨⟨0⟩, 0⟩ = some surface ∧
        surface.windowSurface = some ⟨⟨0⟩, 1⟩ ∧ surface.role = some .window) ∧
      (∃ record, (after {} Script.windowed).toplevel? ⟨⟨0⟩, 3⟩ = some record ∧
        record.windowSurface = ⟨⟨0⟩, 1⟩) ∧
      ∃ cause, ((after {} Script.windowed).getToplevel ⟨⟨0⟩, 1⟩).answer = .error cause := by
  have range : (Server.start {}).state.InRange Script.windowed := inRange_of_length _ (by decide)
  obtain ⟨order, _⟩ := windows_hang_together {} Script.windowed range
  obtain ⟨window, live, surface, toplevel⟩ :
      ∃ window, (after {} Script.windowed).windowSurface? ⟨⟨0⟩, 1⟩ = some window ∧
        window.surface = ⟨⟨0⟩, 0⟩ ∧ window.toplevel = some ⟨⟨0⟩, 3⟩ := ⟨_, rfl, rfl, rfl⟩
  obtain ⟨record, lives, parent⟩ := order.toplevel_of_window _ window _ live toplevel
  exact ⟨range, surface ▸ order.surface_of_window _ window live, ⟨record, lives, parent⟩,
    (order.refused _ window live).mpr ⟨_, record, toplevel, lives⟩⟩

end Windows

end Server

end DisplayServer
