import DisplayServer.Proofs.Claims

/-! # What the requests on windows do

The requests on windows that succeed, each with the objects it found and what it made of the
connection.
-/

namespace DisplayServer.Connection

variable {client : Connection}

/-- A surface is answered the window surface it has, and gets a fresh one if it has none. -/
theorem getWindowSurface_eq_ok {id : SurfaceId} {grant : WindowGrant}
    (done : client.getWindowSurface id = .ok grant) :
    ∃ surface changed, client.surfaces.get? id = some surface ∧
      surface.assumeRole .window = .ok changed ∧
      ((∃ window, (client.modifySurface id fun _ => changed).windowSurfaceOf? id = some window ∧
          grant = { id := window, client := client.modifySurface id fun _ => changed,
                    isNew := false }) ∨
        ((client.modifySurface id fun _ => changed).windowSurfaceOf? id = none ∧
          grant =
            { id := ⟨client.id, client.nextIndex⟩
              client := { client with
                surfaces := (client.surfaces.modify id fun _ => changed).modify id fun surface =>
                  { surface with windowSurface := some ⟨client.id, client.nextIndex⟩ }
                windowSurfaces :=
                  client.windowSurfaces.insert ⟨client.id, client.nextIndex⟩ { surface := id }
                nextIndex := client.nextIndex + 1 }
              isNew := true })) := by
  unfold getWindowSurface at done
  cases found : client.surfaces.get? id with
  | none => simp [found] at done
  | some surface =>
    simp only [found] at done
    cases taken : surface.assumeRole .window with
    | error cause => cases cause <;> simp [taken] at done
    | ok changed =>
      simp only [taken] at done
      refine ⟨surface, changed, rfl, taken, ?_⟩
      cases had : (client.modifySurface id fun _ => changed).windowSurfaceOf? id with
      | some window =>
        simp only [had, Except.ok.injEq] at done
        exact .inl ⟨window, rfl, done.symm⟩
      | none =>
        simp only [had, Except.ok.injEq] at done
        exact .inr ⟨rfl, done.symm⟩

/-- What it takes that a configure is sent, and what that leaves. -/
theorem configure_eq_ok {id : ToplevelId} {size : Size} {serial : Serial} {configured : Connection}
    (done : client.configure id size = .ok (serial, configured)) :
    ∃ toplevel window, client.toplevels.get? id = some toplevel ∧
      client.windowSurfaces.get? toplevel.windowSurface = some window ∧
      serial = window.configure.1 ∧
      configured = { client with
        toplevels := client.toplevels.modify id fun toplevel => { toplevel with size }
        windowSurfaces :=
          client.windowSurfaces.modify toplevel.windowSurface fun _ => window.configure.2
        events := client.events ++
          [.configure toplevel.windowSurface id size window.configure.1] } := by
  unfold configure at done
  cases found : client.toplevels.get? id with
  | none => simp [found] at done
  | some toplevel =>
    simp only [found] at done
    cases shown : client.windowSurfaces.get? toplevel.windowSurface with
    | none => simp [shown] at done
    | some window =>
      simp only [shown, Except.ok.injEq, Prod.mk.injEq] at done
      exact ⟨toplevel, window, rfl, shown, done.1.symm, done.2.symm⟩

/-- A toplevel is opened on a window surface without one, and is configured at once. -/
theorem getToplevel_eq_ok {id : WindowSurfaceId} {size : Size} {toplevel : ToplevelId}
    {opened : Connection} (done : client.getToplevel id size = .ok (toplevel, opened)) :
    ∃ window, client.windowSurfaces.get? id = some window ∧ window.toplevel = none ∧
      toplevel = ⟨client.id, client.nextIndex⟩ ∧
      opened = { client with
        toplevels := (client.toplevels.insert toplevel
          { windowSurface := id, surface := window.surface, size }).modify toplevel
            fun toplevel => { toplevel with size }
        windowSurfaces := (client.windowSurfaces.modify id fun window =>
          { window with toplevel := some toplevel }).modify id
            fun _ => ({ window with toplevel := some toplevel } : WindowSurface).configure.2
        events := client.events ++ [.configure id toplevel size
          ({ window with toplevel := some toplevel } : WindowSurface).configure.1]
        nextIndex := client.nextIndex + 1 } := by
  unfold getToplevel at done
  cases found : client.windowSurfaces.get? id with
  | none => simp [found] at done
  | some window =>
    simp only [found] at done
    cases held : window.toplevel with
    | some other => simp [held] at done
    | none =>
      refine ⟨window, rfl, held, ?_⟩
      simp [held, draw, configure, modifyWindow, modifyToplevel, emit, Arena.get?_insert,
        Arena.get?_modify, found, pure, Except.pure] at done
      obtain ⟨rfl, rfl⟩ := done
      exact ⟨rfl, rfl⟩

/-- Only a live surface can be presented, and what that leaves. -/
theorem present?_eq_some {id : SurfaceId} {time : UInt32} {presented : Connection}
    (done : client.present? id time = some presented) :
    ∃ surface, client.surfaces.get? id = some surface ∧
      presented = { client with
        surfaces := client.surfaces.modify id Surface.presented
        events := client.events ++ surface.callbacks.map fun callback =>
          .frameDone callback time } := by
  obtain ⟨surface, found, rfl⟩ := Option.map_eq_some_iff.mp done
  exact ⟨surface, found, rfl⟩

/-- Only a live window surface can be destroyed, and what that leaves. -/
theorem destroyWindowSurface?_eq_some {id : WindowSurfaceId} {left : Connection}
    (done : client.destroyWindowSurface? id = some left) :
    ∃ window, client.windowSurfaces.get? id = some window ∧
      left = { client with
        surfaces := client.surfaces.modify window.surface fun surface =>
          if surface.windowSurface = some id then { surface with windowSurface := none }
          else surface
        windowSurfaces := client.windowSurfaces.erase id
        toplevels := client.toplevelsWithout id } := by
  obtain ⟨window, found, rfl⟩ := Option.map_eq_some_iff.mp done
  refine ⟨window, found, ?_⟩
  rw [removeWindow_eq]
  rfl

/-- Only a live toplevel can be destroyed, and what that leaves. -/
theorem destroyToplevel?_eq_some {id : ToplevelId} {left : Connection}
    (done : client.destroyToplevel? id = some left) :
    ∃ toplevel, client.toplevels.get? id = some toplevel ∧
      left = { client with
        toplevels := client.toplevels.erase id
        windowSurfaces := client.windowSurfaces.modify toplevel.windowSurface
          fun window => { window with toplevel := none } } := by
  obtain ⟨toplevel, found, rfl⟩ := Option.map_eq_some_iff.mp done
  exact ⟨toplevel, found, rfl⟩

end DisplayServer.Connection
