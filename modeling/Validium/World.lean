/-!
Operations act on a world that is larger than what each of them knows. A part of the world
can be read and replaced on its own.
-/
namespace Validium

/-- Access to one part of a world. -/
structure Part (W S : Type) where
  view : W → S
  put : S → W → W

namespace Part

variable {W S T α : Type}

def whole : Part W W := ⟨id, fun s _ => s⟩

def inner (outer : Part W S) (part : Part S T) : Part W T :=
  ⟨fun w => part.view (outer.view w), fun t w => outer.put (part.put t (outer.view w)) w⟩

def run (part : Part W S) (action : StateM S α) : StateM W α := fun w =>
  let (a, s) := action (part.view w)
  (a, part.put s w)

/-- Reading back what was put, and putting what is there. -/
structure Lawful (part : Part W S) : Prop where
  view_put : ∀ s w, part.view (part.put s w) = s
  put_view : ∀ w, part.put (part.view w) w = w
  put_put : ∀ s t w, part.put s (part.put t w) = part.put s w

end Part

end Validium
