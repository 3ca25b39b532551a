import Microdata.Binding.Registry
set_option autoImplicit false

/-!
A registry in use. It hands out one instance of each setter, made when it is first asked for and
kept from then on, also while the setter has no entry. Of some setters there is none: everything can
be registered that has the kind of a setter. Requests are answered one by one, and one that fails is
answered with its error.
-/

namespace Microdata

/-- An instance of a setter; the serial number tells it from all others. -/
structure Instance where
  setter : Setter
  serial : Nat
  deriving DecidableEq, Repr

/-- A registry, and the instances that are kept, each under its setter. -/
structure Pool where
  registry : Registry
  instances : List (Setter × Instance) := []

namespace Pool

inductive Request where
  | register (tag : String) (c : Candidate)
  | registerAll (tags : List String) (c : Candidate)
  | deregister (tag : String)
  | load (offers : List (String × Option Candidate))
  | get (tag : String)
  | contains (tag : String)
  | instanceFor (e : Element)

inductive Answer where
  | done
  | failed (error : RegistryError)
  | setter (s : Setter)
  | contained (b : Bool)
  | handed (i : Instance)
  | unmade (f : Fault)
  deriving DecidableEq, Repr

def Answer.ofInstance : Except Fault Instance → Answer
  | .ok i => handed i
  | .error f => unmade f

def fresh (fallback : Setter) : Pool := { registry := { fallback } }

def kept? (p : Pool) (s : Setter) : Option Instance :=
  (p.instances.find? fun q => q.1 == s).map (·.2)

/-- The instance that is kept for a setter, or else a new one, if it can be made. -/
def instanceOf (p : Pool) (s : Setter) : Except Fault Instance × Pool :=
  match p.kept? s, s.obstacle with
  | some i, _ => (.ok i, p)
  | none, some f => (.error f, p)
  | none, none =>
    let i : Instance := ⟨s, p.instances.length⟩
    (.ok i, { p with instances := p.instances ++ [(s, i)] })

def instanceFor (p : Pool) (e : Element) : Except Fault Instance × Pool :=
  p.instanceOf (p.registry.setterFor e)

def write (p : Pool) (e : Element) (v : Value) : Except Fault Element × Pool :=
  let (i, p) := p.instanceFor e
  (i >>= fun i => i.setter.target.write e v, p)

def update (p : Pool) : Except RegistryError Registry → Answer × Pool
  | .ok r => (.done, { p with registry := r })
  | .error e => (.failed e, p)

def step (p : Pool) : Request → Answer × Pool
  | .register tag c => p.update (p.registry.register tag c)
  | .registerAll tags c =>
    let (r, e) := p.registry.registerAll c tags
    (e.elim .done .failed, { p with registry := r })
  | .deregister tag => p.update (p.registry.deregister tag)
  | .load offers => (.done, { p with registry := p.registry.load offers })
  | .get tag =>
    match p.registry.get tag with
    | .ok s => (.setter s, p)
    | .error e => (.failed e, p)
  | .contains tag => (.contained (p.registry.contains tag), p)
  | .instanceFor e =>
    let (i, p) := p.instanceFor e
    (.ofInstance i, p)

def run (p : Pool) : List Request → List Answer × Pool
  | [] => ([], p)
  | q :: qs =>
    let (a, p) := p.step q
    let (as, p) := p.run qs
    (a :: as, p)

end Pool
end Microdata
