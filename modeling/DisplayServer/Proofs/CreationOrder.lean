import DisplayServer.Proofs.Issuing
import Mathlib.Data.List.Dedup

/-! # Connections and surfaces are kept in the order of their creation

What an arena lists is a part of what was ever put into it, in the order of the insertions. The
connections are among the clients that were accepted (`Server.keys_sublist_arrivals`), and the
surfaces of a client among the surfaces that it created (`Server.keys_sublist_creations`). Short of
the wrap nothing is created twice under one handle, so what is kept is what was created and is still
there, oldest first (`Server.connections_eq_arrivals`, `Server.surfaces_eq_creations`). Past the
wrap a new surface can take the place of an old one.
-/

namespace DisplayServer

/-- A part of a list without repetitions is found by what is in it. -/
theorem eq_filter_of_sublist {α : Type} [DecidableEq α] {part whole : List α}
    (sublist : part.Sublist whole) (distinct : whole.Nodup) :
    part = whole.filter fun value => value ∈ part := by
  induction sublist with
  | slnil => rfl
  | @cons part whole value sublist ih =>
    obtain ⟨fresh, distinct⟩ := List.nodup_cons.mp distinct
    have left : value ∉ part := fun listed => fresh (sublist.subset listed)
    rw [List.filter_cons_of_neg (by simpa using left)]
    exact ih distinct
  | @cons_cons part whole value sublist ih =>
    obtain ⟨fresh, distinct⟩ := List.nodup_cons.mp distinct
    rw [List.filter_cons_of_pos (by simp)]
    refine congrArg (value :: ·) ((ih distinct).trans (List.filter_congr fun other listed => ?_))
    have apart : other ≠ value := fun same => fresh (same ▸ listed)
    simp only [List.mem_cons, apart, false_or]

namespace Connection

variable {server : Server} {host : Host} {operation : Operation} {old new : Connection}

/-- The only operation that adds a surface is to create one. -/
theorem Change.keys_surfaces (change : Change server host operation old new) :
    new.surfaces.keys.Sublist old.surfaces.keys ∨
      ∃ connection version, operation = .createSurface connection version ∧
        new = (old.addSurface version).2 := by
  have modified (id : SurfaceId) (change : Surface → Surface) :
      (old.surfaces.modify id change).keys.Sublist old.surfaces.keys :=
    Arena.keys_modify old.surfaces id change ▸ .refl _
  cases change with
  | createSurface => exact .inr ⟨_, _, rfl, rfl⟩
  | same | takeEvents | unbind | createPool | resizePool | createBuffer
  | missConfigure | ackConfigure | setWindowGeometry | setTitle | setAppId => exact .inl (.refl _)
  | @bind _ _ _ _ capability _ => cases capability.kind <;> exact .inl (.refl _)
  | destroyPool => exact .inl (handles_destroyPool _ _ .surface)
  | destroyBuffer =>
    rw [destroyBuffer_eq]
    exact .inl (.refl _)
  | failRead _ failure =>
    rw [failure.frame]
    exact .inl (.refl _)
  | attach =>
    unfold modifySurface
    rw [claim_frame, withdraw_frame]
    exact .inl (modified ..)
  | request => exact .inl (modified ..)
  | frame =>
    simp only [addCallback, draw]
    split
    · exact .inl (.refl _)
    · exact .inl (modified ..)
  | @commit _ _ commit done =>
    have kept : commit.client.surfaces.keys = old.surfaces.keys := handles_commit done .surface
    exact .inl (kept ▸ .refl _)
  | @commitUnread _ _ _ commit _ done _ failure =>
    have kept : commit.client.surfaces.keys = old.surfaces.keys := handles_commit done .surface
    rw [failure.frame]
    exact .inl (kept ▸ .refl _)
  | present done =>
    obtain ⟨_, _, rfl⟩ := present?_eq_some done
    exact .inl (modified ..)
  | presentAll => exact .inl ((Arena.keys_mapValues ..).symm ▸ .refl _)
  | destroySurface done => exact .inl (handles_destroySurface done .surface)
  | getWindowSurface done =>
    obtain ⟨_, _, _, _, ⟨_, _, rfl⟩ | ⟨_, rfl⟩⟩ := getWindowSurface_eq_ok done
    · exact .inl (modified ..)
    · refine .inl ?_
      simp only [Arena.keys_modify, List.Sublist.refl]
  | getToplevel done =>
    obtain ⟨_, _, _, _, rfl⟩ := getToplevel_eq_ok done
    exact .inl (.refl _)
  | sendConfigure done =>
    obtain ⟨_, _, _, _, _, rfl⟩ := configure_eq_ok done
    exact .inl (.refl _)
  | destroyWindowSurface done =>
    obtain ⟨_, _, rfl⟩ := destroyWindowSurface?_eq_some done
    exact .inl (modified ..)
  | destroyToplevel done =>
    obtain ⟨_, _, rfl⟩ := destroyToplevel?_eq_some done
    exact .inl (.refl _)

/-- The handles of surfaces stay distinct: a handle that comes back replaces what has it. -/
theorem Change.nodup_surfaces (change : Change server host operation old new)
    (distinct : old.surfaces.keys.Nodup) : new.surfaces.keys.Nodup := by
  rcases change.keys_surfaces with fewer | ⟨_, _, _, rfl⟩
  · exact distinct.sublist fewer
  · exact Arena.nodup_keys_insert distinct ..

end Connection

namespace Server

variable {config : Config} {server : Server} {host : Host} {operation : Operation} {script : Script}

/-- The client that an operation accepts. -/
def arrivals (server : Server) (_ : Host) : Operation → List ConnectionId
  | .connect => [server.connect.answer]
  | _ => []

/-- The surface that an operation creates. -/
def creations (server : Server) (_ : Host) : Operation → List SurfaceId
  | .createSurface connection version =>
    (server.createSurface connection version).answer.toOption.toList
  | _ => []

section Histories

/-- A client that arrives is accepted. -/
theorem accepts_of_mem_arrivals {id : ConnectionId}
    (arrives : id ∈ server.arrivals host operation) : server.Accepts host operation id := by
  cases operation with
  | connect => exact congrArg Answer.connection (List.mem_singleton.mp arrives).symm
  | _ => cases arrives

private theorem issues_of_mem_creations {id : SurfaceId}
    (made : id ∈ server.creations host operation) : server.Issues host operation id := by
  cases operation with
  | createSurface connection version =>
    obtain ⟨created, done, rfl⟩ : ∃ created,
        (server.createSurface connection version).answer = .ok created ∧ created = id := by
      cases done : (server.createSurface connection version).answer with
      | error cause =>
        simp only [creations, done] at made
        cases made
      | ok created =>
        simp only [creations, done] at made
        exact ⟨created, rfl, (List.mem_singleton.mp made).symm⟩
    obtain ⟨old, live, rfl, _⟩ := createSurface_eq_ok done
    exact issues_createSurface host version live
  | _ => cases made

/-- Until numbers come back, no client is accepted twice. -/
theorem nodup_arrivals (range : (Server.start config).state.InRange script) :
    (history config arrivals script).Nodup := by
  induction script using List.reverseRecOn with
  | nil => exact List.nodup_nil
  | append_singleton script entry ih =>
    obtain ⟨host, operation⟩ := entry
    rw [history_concat, List.nodup_append]
    refine ⟨ih range.of_append, ?_, fun id earlier other last same => ?_⟩
    · cases operation <;> first | exact List.nodup_nil | exact List.nodup_singleton _
    · obtain ⟨front, host', operation', middle, rfl, arrives⟩ := mem_history_iff.mp earlier
      exact (neverReused_of_inRange range).connections front host' operation' middle host operation
        [] rfl id other (accepts_of_mem_arrivals arrives) (accepts_of_mem_arrivals last) same

/-- Until handles come back, no surface is created twice. -/
theorem nodup_creations (range : (Server.start config).state.InRange script) :
    (history config creations script).Nodup := by
  induction script using List.reverseRecOn with
  | nil => exact List.nodup_nil
  | append_singleton script entry ih =>
    obtain ⟨host, operation⟩ := entry
    rw [history_concat, List.nodup_append]
    refine ⟨ih range.of_append, ?_, fun id earlier other last same => ?_⟩
    · cases operation with
      | createSurface connection version =>
        simp only [creations]
        cases (Server.createSurface _ connection version).answer.toOption with
        | none => exact List.nodup_nil
        | some created => exact List.nodup_singleton created
      | _ => exact List.nodup_nil
    · obtain ⟨front, host', operation', middle, rfl, made⟩ := mem_history_iff.mp earlier
      exact (neverReused_of_inRange range).handles front host' operation' middle host operation
        [] rfl id other (issues_of_mem_creations made) (issues_of_mem_creations last) same

/-- **Connections are kept in the order in which clients were accepted,** also once their numbers
have come back. -/
theorem keys_sublist_arrivals (config : Config) (script : Script) :
    (after config script).connections.keys.Sublist (history config arrivals script) := by
  induction script using List.reverseRecOn with
  | nil => exact .refl _
  | append_singleton script entry ih =>
    obtain ⟨host, operation⟩ := entry
    have named := named_after config script
    rw [after_concat, history_concat]
    cases operation with
    | connect => exact (Arena.keys_insert_sublist ..).trans (ih.append_right _)
    | disconnect gone =>
      change ((after config script).disconnect gone).state.connections.keys.Sublist _
      rw [disconnect]
      cases (after config script).connection? gone with
      | none => exact ih.trans (List.sublist_append_left ..)
      | some client =>
        exact ((Arena.keys_erase_sublist ..).trans ih).trans (List.sublist_append_left ..)
    | _ =>
      rw [(effect_next named host _ (by simp) (by simp)).keys]
      exact ih.trans (List.sublist_append_left ..)

/-- One operation adds no surface to a connection but the one that it creates. -/
theorem keys_sublist_of_next (named : server.Named) {id : ConnectionId} {new : Connection}
    (live : (server.next host operation).connection? id = some new) :
    new.surfaces.keys = [] ∨ ∃ old, server.connection? id = some old ∧
      new.surfaces.keys.Sublist (old.surfaces.keys ++
        (server.creations host operation).filter fun surface => surface.connection = id) := by
  rcases connection?_next named live with ⟨_, _, rfl⟩ | ⟨old, found, change⟩
  · exact .inl rfl
  refine .inr ⟨old, found, ?_⟩
  rcases change.keys_surfaces with fewer | ⟨connection, version, rfl, rfl⟩
  · exact fewer.trans (List.sublist_append_left ..)
  by_cases own : id = connection
  · subst own
    have made : server.creations host (.createSurface id version) = [old.fresh .surface] := by
      simp only [creations, createSurface, onConnection, found]
      rfl
    have here : (old.fresh .surface).connection = id := named id old found
    rw [made, List.filter_eq_self.mpr (by simpa using here)]
    exact Arena.keys_insert_sublist ..
  · have effect := effect_next named host (.createSurface connection version) (by simp) (by simp)
    have kept := effect.elsewhere (by simp) connection rfl id own
    rw [live, found] at kept
    rw [Option.some.inj kept]
    exact List.sublist_append_left ..

/-- **Surfaces are kept in the order in which they were created,** or in the place of a surface that
was live under their handle. -/
theorem keys_sublist_creations {id : ConnectionId} {client : Connection}
    (live : (after config script).connection? id = some client) :
    client.surfaces.keys.Sublist
      ((history config creations script).filter fun surface => surface.connection = id) := by
  induction script using List.reverseRecOn generalizing client with
  | nil => cases live
  | append_singleton script entry ih =>
    obtain ⟨host, operation⟩ := entry
    rw [after_concat] at live
    rw [history_concat, List.filter_append]
    rcases keys_sublist_of_next (named_after config script) live with none | ⟨old, found, more⟩
    · rw [none]
      exact List.nil_sublist _
    · exact more.trans ((ih found).append_right _)

/-- Short of the wrap, the connections are those who were accepted and are still there. -/
theorem connections_eq_arrivals (range : (Server.start config).state.InRange script) :
    (after config script).connections.keys =
      (history config arrivals script).filter fun id =>
        id ∈ (after config script).connections.keys :=
  eq_filter_of_sublist (keys_sublist_arrivals config script) (nodup_arrivals range)

/-- Short of the wrap, the surfaces of a client are those that it created and that are still
there. -/
theorem surfaces_eq_creations (range : (Server.start config).state.InRange script)
    {id : ConnectionId} {client : Connection}
    (live : (after config script).connection? id = some client) :
    client.surfaces.keys = (history config creations script).filter fun surface =>
      surface.connection = id ∧ surface ∈ client.surfaces.keys := by
  refine (eq_filter_of_sublist (keys_sublist_creations live)
    ((nodup_creations range).filter _)).trans ?_
  rw [List.filter_filter]
  exact List.filter_congr fun surface _ => by simp only [Bool.decide_and, Bool.and_comm]

end Histories

end Server

end DisplayServer
