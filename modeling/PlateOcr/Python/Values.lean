/-
  PlateOcr.Python.Values — the Python values `src/open/demo/learn/main.py` reads and writes.

  A `str` is a list of code points (`PyStr`), so a label may hold any character Python
  allows, lone surrogates included; `PAD_TOKEN` is `"<pad>"`. A `float` is finite, `±inf` or
  `nan`. A finite float keeps its value as a rational: the parser (`PlateOcr.Config.Parse`)
  only compares and clamps floats and the engine reads them into its field, so no theorem of
  this development depends on the 53-bit rounding; `float(n)` of an int is modelled by its
  overflow rule only. `<` is IEEE's
  (false as soon as `nan` is involved), and `int(f)` truncates toward zero and raises on
  `±inf` and `nan`.

  A JSON value is what `json.loads` returns: the run's `params` and the model's config. A
  `dict` is its list of pairs, the last binding of a key winning, as `dict(pairs)` does;
  `d.get(k)` is `None` for a missing key. `PyError` names the exceptions the code can raise,
  with the texts of the `RuntimeError`s it raises itself; `osError` is PIL's on a file it
  cannot open as an image (`UnidentifiedImageError` is an `OSError`).

  The builtins whose behaviour is a library's and not this repository's (`int(s.strip())`,
  `float(s.strip())` on a string, `str(v)` on a non-string) are the fields of `Builtins`.
-/

import Mathlib.Data.Rat.Defs
import Mathlib.Order.Basic

namespace PlateOcr

abbrev CodePoint := Fin 0x110000

abbrev PyStr := List CodePoint

/-- A string literal of the source as code points. -/
def PyStr.ofString (s : String) : PyStr := s.toList.map fun c => Fin.ofNat c.toNat

def padToken : PyStr := PyStr.ofString "<pad>"

inductive PyError where
  | runtimeError (msg : String)
  | valueError
  | overflowError
  | indexError
  | keyError
  | typeError
  | osError
  deriving DecidableEq, Repr

inductive PyFloat where
  | fin (q : ℚ)
  | inf
  | ninf
  | nan
  deriving DecidableEq, Repr

namespace PyFloat

def lt : PyFloat → PyFloat → Bool
  | fin a, fin b => decide (a < b)
  | fin _, inf | ninf, fin _ | ninf, inf => true
  | _, _ => false

def toInt : PyFloat → Except PyError Int
  | fin q => .ok (q.num.tdiv q.den)
  | nan => .error .valueError
  | _ => .error .overflowError

/-- The least magnitude `float(n)` rounds past the largest double, `(2 - 2⁻⁵³) · 2¹⁰²³`. -/
def overflowBound : Nat := Nat.pow 2 1024 - Nat.pow 2 970

def ofInt (n : Int) : Except PyError PyFloat :=
  if n.natAbs < overflowBound then .ok (fin n) else .error .overflowError

/-- `min(a, b)`: `b` only when `b < a`. -/
def pyMin (a b : PyFloat) : PyFloat := if b.lt a then b else a

/-- `max(a, b)`: `b` only when `b > a`. -/
def pyMax (a b : PyFloat) : PyFloat := if a.lt b then b else a

end PyFloat

inductive JsonVal where
  | null
  | bool (b : Bool)
  | int (n : Int)
  | float (f : PyFloat)
  | str (s : PyStr)
  | list (xs : List JsonVal)
  | dict (kvs : List (PyStr × JsonVal))

abbrev Dict := List (PyStr × JsonVal)

/-- Python truthiness: `None`, `False`, `0`, `0.0` and empty strings, lists and dicts are false. -/
def JsonVal.truthy : JsonVal → Bool
  | .null => false
  | .bool b => b
  | .int n => n != 0
  | .float f => f != .fin 0
  | .str s => !s.isEmpty
  | .list xs => !xs.isEmpty
  | .dict kvs => !kvs.isEmpty

namespace Dict

def get (d : Dict) (key : String) : JsonVal := ((d.reverse.lookup (PyStr.ofString key))).getD .null

def getD (d : Dict) (key : String) (default : JsonVal) : JsonVal :=
  ((d.reverse.lookup (PyStr.ofString key))).getD default

def set (d : Dict) (key : String) (v : JsonVal) : Dict := d ++ [(PyStr.ofString key, v)]

@[simp] theorem get_set_same (d : Dict) (k : String) (v : JsonVal) : (d.set k v).get k = v := by
  simp [get, set]

theorem get_set_ne (d : Dict) {k k' : String} (v : JsonVal) (h : PyStr.ofString k ≠ PyStr.ofString k') :
    (d.set k v).get k' = d.get k' := by
  simp [get, set, List.lookup_cons, beq_false_of_ne (Ne.symm h)]

@[simp] theorem getD_set_same (d : Dict) (k : String) (v dflt : JsonVal) : (d.set k v).getD k dflt = v := by
  simp [getD, set]

theorem getD_set_ne (d : Dict) {k k' : String} (v dflt : JsonVal) (h : PyStr.ofString k ≠ PyStr.ofString k') :
    (d.set k v).getD k' dflt = d.getD k' dflt := by
  simp [getD, set, List.lookup_cons, beq_false_of_ne (Ne.symm h)]

end Dict

section
variable {ε α β : Type}

@[simp] theorem except_bind_eq_ok {x : Except ε α} {f : α → Except ε β} {r : β} :
    x >>= f = .ok r ↔ ∃ a, x = .ok a ∧ f a = .ok r := by
  cases x <;> simp [bind, Except.bind]

@[simp] theorem except_pure_eq_ok {a b : α} : (pure a : Except ε α) = .ok b ↔ a = b := by
  simp [pure, Except.pure]

@[simp] theorem except_ok_bind {a : α} {f : α → Except ε β} : (Except.ok a >>= f) = f a := rfl

end

/-- The library builtins the code calls on strings: `int(s.strip())` and
    `float(s.strip())` (`none` where they raise), and `str(v)` of a non-string. -/
structure Builtins where
  intOfStr : PyStr → Option Int
  floatOfStr : PyStr → Option PyFloat
  reprOf : JsonVal → PyStr

/-- `str(v)`: a string is itself. -/
def Builtins.str (py : Builtins) : JsonVal → PyStr
  | .str s => s
  | v => py.reprOf v

end PlateOcr
