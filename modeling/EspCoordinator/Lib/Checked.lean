import Mathlib.Init

-- Code that stops with a fault where it would leave its bounds.
namespace EspCoordinator.Checked

variable {ε α β : Type}

@[simp] theorem ok_bind (value : α) (next : α → Except ε β) :
    (Except.ok value >>= next) = next value := rfl

@[simp] theorem pure_eq (value : α) : (pure value : Except ε α) = .ok value := rfl

end EspCoordinator.Checked
