import InstrumentLink.Proofs.Endpoint.Custody
import InstrumentLink.Proofs.Host.Watched
import InstrumentLink.Proofs.Link.Coherence

namespace InstrumentLink

variable {σ : Type}

namespace Link

/-- The endpoints that a link owns, in role order. -/
def members (link : Link) : List Endpoint := Role.all.filterMap link.endpoint?

def handles (link : Link) : List Handle := link.members.flatMap Endpoint.handles

theorem mem_members_iff {link : Link} {endpoint : Endpoint} :
    endpoint ∈ link.members ↔ ∃ role, link.endpoint? role = some endpoint := by
  rw [members, List.mem_filterMap]
  constructor
  · rintro ⟨role, -, found⟩
    exact ⟨role, found⟩
  · rintro ⟨role, found⟩
    exact ⟨role, by cases role <;> decide, found⟩

theorem IsBare.handles_eq_nil {link : Link} (bare : link.IsBare) : link.handles = [] := by
  rw [handles, List.flatMap_eq_nil_iff]
  intro endpoint mem
  obtain ⟨role, found⟩ := mem_members_iff.mp mem
  exact bare role endpoint found

theorem exists_members_perm {link : Link} {role : Role} {endpoint : Endpoint}
    (found : link.endpoint? role = some endpoint) (after : Endpoint) :
    ∃ others, link.members.Perm (endpoint :: others) ∧
      (link.withEndpoint role after).members.Perm (after :: others) := by
  have mem : role ∈ Role.all := by cases role <;> decide
  have nodup : Role.all.Nodup := by decide
  have split := List.perm_cons_erase mem
  have unchanged : (Role.all.erase role).filterMap (link.withEndpoint role after).endpoint? =
      (Role.all.erase role).filterMap link.endpoint? := by
    apply List.filterMap_congr
    intro other mem_other
    exact link.endpoint?_withEndpoint_of_ne after (nodup.mem_erase_iff.mp mem_other).1
  refine ⟨(Role.all.erase role).filterMap link.endpoint?, ?_, ?_⟩
  · rw [← List.filterMap_cons_some found]
    exact split.filterMap link.endpoint?
  · rw [← unchanged, ← List.filterMap_cons_some (link.endpoint?_withEndpoint_self role after)]
    exact split.filterMap _

end Link

namespace Custody

variable {custody : Custody σ} {link link' : Link} {os os' : σ}

theorem exchanges_withEndpoint {role : Role} {endpoint after : Endpoint}
    (found : link.endpoint? role = some endpoint)
    (exchange : custody.Exchanges endpoint.handles after.handles os os') :
    custody.Exchanges link.handles (link.withEndpoint role after).handles os os' := by
  obtain ⟨others, before_perm, after_perm⟩ := Link.exists_members_perm found after
  have taken_out := custody.exchanges_of_perm (before_perm.flatMap_right Endpoint.handles) os
  have put_back := custody.exchanges_of_perm (after_perm.flatMap_right Endpoint.handles).symm os'
  exact (taken_out.trans (exchange.before (others.flatMap Endpoint.handles))).trans put_back

private theorem exchanges_acts {step : Endpoint → σ → Endpoint → σ → Prop}
    (exchanges : ∀ {endpoint os after os'}, step endpoint os after os' →
      custody.Exchanges endpoint.handles after.handles os os')
    (acts : Link.Acts step link os link' os') :
    custody.Exchanges link.handles link'.handles os os' := by
  induction acts with
  | refl => exact custody.exchanges_refl _ os
  | tail _ found steps ih => exact ih.trans (exchanges_withEndpoint found (exchanges steps))

end Custody

namespace Host.Respects

variable {host : Host σ} {custody : Custody σ} (respects : host.Respects custody)

include respects

theorem run (operation : Link.Operation) (link : Link) (os : σ) :
    custody.Exchanges link.handles (operation.run host link os).1.handles os
      (operation.run host link os).2 :=
  Custody.exchanges_acts respects.steps (Link.acts_run host operation link os)

theorem releaseLink (link : Link) (os : σ) :
    custody.Exchanges link.handles [] os (link.release host os) := by
  unfold Link.handles Link.members Link.release
  -- the induction is on the roles that are still to be released
  generalize Role.all = roles
  induction roles generalizing os with
  | nil => exact custody.exchanges_refl [] os
  | cons role rest ih =>
    cases found : link.endpoint? role with
    | none =>
      simp only [List.filterMap_cons, List.foldl_cons, found, Option.map_none, Option.getD_none]
      exact ih os
    | some endpoint =>
      simp only [List.filterMap_cons, List.foldl_cons, List.flatMap_cons, found, Option.map_some,
        Option.getD_some]
      exact ((respects.release endpoint os).before _).trans (ih _)

private theorem configure (config : LinkConfig) (os : σ) :
    custody.Exchanges [] (config.configure host os).state.handles os
      (config.configure host os).host := by
  obtain ⟨tuned, state_eq, acts⟩ := config.acts_configure host os
  have tuning := Custody.exchanges_acts (fun tunes => respects.steps (.tuned tunes)) acts
  rw [(Link.isBare_new config.topology).handles_eq_nil] at tuning
  rw [state_eq]
  rcases config.configureDataLine_cases tuned with same | ⟨endpoint, after, found, retuned, changed⟩
  · rw [same]
    exact tuning
  · have line : custody.Exchanges endpoint.handles after.handles (config.configure host os).host
        (config.configure host os).host := by
      rw [retuned.handles_eq]
      exact custody.exchanges_refl _ _
    rw [changed]
    exact tuning.trans (Custody.exchanges_withEndpoint found line)

theorem build_of_ok {config : LinkConfig} {link : Link} {os os' : σ}
    (built : config.build host os = (.ok link, os')) :
    custody.Exchanges [] link.handles os os' := by
  have configured := respects.configure config os
  unfold LinkConfig.build at built
  dsimp only at built
  split at built
  · cases built
    exact configured
  · cases built

/-- A link that could not be configured is given up. -/
theorem build_of_error {config : LinkConfig} {fault : Fault} {os os' : σ}
    (failed : config.build host os = (.error fault, os')) : custody.Exchanges [] [] os os' := by
  have configured := respects.configure config os
  unfold LinkConfig.build at failed
  dsimp only at failed
  split at failed
  · cases failed
  · cases failed
    exact configured.trans (respects.releaseLink _ _)

end Host.Respects

theorem Link.closed_release (host : Host σ) (link : Link) (watched : Watched σ) :
    (link.release host.watched watched).closed = watched.closed ++ link.handles := by
  unfold handles members release
  generalize Role.all = roles
  induction roles generalizing watched with
  | nil => exact (List.append_nil _).symm
  | cons role rest ih =>
    cases found : link.endpoint? role with
    | none =>
      simp only [List.filterMap_cons, List.foldl_cons, found, Option.map_none, Option.getD_none]
      exact ih watched
    | some endpoint =>
      simp only [List.filterMap_cons, List.foldl_cons, List.flatMap_cons, found, Option.map_some,
        Option.getD_some]
      rw [ih, endpoint.closed_release host watched, List.append_assoc]

end InstrumentLink
