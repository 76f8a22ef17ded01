import SearchGateway.Text.Mark

/-!
# Joined letters

In some scripts letters join their neighbours on one side or on both, past marks between them.  The
tables list such letters as far as they may occur in names of hosts, by Unicode 14.
-/

set_option autoImplicit false

namespace SearchGateway.Text

/-- Letters that join on both sides. -/
def joiningBoth : List Run := [
  ⟨0x620, 0x620, 1⟩, ⟨0x626, 0x62a, 2⟩, ⟨0x62b, 0x62e, 1⟩, ⟨0x633, 0x63f, 1⟩, ⟨0x641, 0x647, 1⟩,
  ⟨0x649, 0x64a, 1⟩, ⟨0x66e, 0x66f, 1⟩, ⟨0x679, 0x687, 1⟩, ⟨0x69a, 0x6bf, 1⟩, ⟨0x6c1, 0x6c2, 1⟩,
  ⟨0x6cc, 0x6d0, 2⟩, ⟨0x6d1, 0x6d1, 1⟩, ⟨0x6fa, 0x6fc, 1⟩, ⟨0x6ff, 0x6ff, 1⟩, ⟨0x712, 0x714, 1⟩,
  ⟨0x71a, 0x71d, 1⟩, ⟨0x71f, 0x727, 1⟩, ⟨0x729, 0x72d, 2⟩, ⟨0x72e, 0x72e, 1⟩, ⟨0x74e, 0x758, 1⟩,
  ⟨0x75c, 0x76a, 1⟩, ⟨0x76d, 0x770, 1⟩, ⟨0x772, 0x772, 1⟩, ⟨0x775, 0x777, 1⟩, ⟨0x77a, 0x77f, 1⟩,
  ⟨0x7ca, 0x7ea, 1⟩, ⟨0x841, 0x845, 1⟩, ⟨0x848, 0x848, 1⟩, ⟨0x84a, 0x853, 1⟩, ⟨0x855, 0x855, 1⟩,
  ⟨0x860, 0x860, 1⟩, ⟨0x862, 0x865, 1⟩, ⟨0x868, 0x868, 1⟩, ⟨0x886, 0x886, 1⟩, ⟨0x889, 0x88d, 1⟩,
  ⟨0x8a0, 0x8a9, 1⟩, ⟨0x8af, 0x8b0, 1⟩, ⟨0x8b3, 0x8b8, 1⟩, ⟨0x8ba, 0x8c8, 1⟩, ⟨0x1820, 0x1878, 1⟩,
  ⟨0x1887, 0x18a8, 1⟩, ⟨0x18aa, 0x18aa, 1⟩, ⟨0xa840, 0xa871, 1⟩, ⟨0x10ac0, 0x10ac4, 1⟩,
  ⟨0x10ad3, 0x10ad6, 1⟩, ⟨0x10ad8, 0x10adc, 1⟩, ⟨0x10ade, 0x10ae0, 1⟩, ⟨0x10b80, 0x10b80, 1⟩,
  ⟨0x10b82, 0x10b82, 1⟩, ⟨0x10b86, 0x10b88, 1⟩, ⟨0x10b8a, 0x10b8b, 1⟩, ⟨0x10b8d, 0x10b8d, 1⟩,
  ⟨0x10b90, 0x10b90, 1⟩, ⟨0x10d01, 0x10d21, 1⟩, ⟨0x10d23, 0x10d23, 1⟩, ⟨0x10f30, 0x10f32, 1⟩,
  ⟨0x10f34, 0x10f44, 1⟩, ⟨0x10f70, 0x10f73, 1⟩, ⟨0x10f76, 0x10f81, 1⟩, ⟨0x10fb0, 0x10fb0, 1⟩,
  ⟨0x10fb2, 0x10fb3, 1⟩, ⟨0x10fb8, 0x10fb8, 1⟩, ⟨0x10fbb, 0x10fbc, 1⟩, ⟨0x10fbe, 0x10fbf, 1⟩,
  ⟨0x10fc1, 0x10fc1, 1⟩, ⟨0x10fc4, 0x10fc4, 1⟩, ⟨0x1e922, 0x1e943, 1⟩]

/-- Letters that join the letter after them only. -/
def joiningNext : List Run := [
  ⟨0xa872, 0xa872, 1⟩, ⟨0x10acd, 0x10acd, 1⟩, ⟨0x10ad7, 0x10ad7, 1⟩, ⟨0x10d00, 0x10d00, 1⟩]

/-- Letters that join the letter before them only. -/
def joiningPrevious : List Run := [
  ⟨0x622, 0x625, 1⟩, ⟨0x627, 0x627, 1⟩, ⟨0x629, 0x629, 1⟩, ⟨0x62f, 0x632, 1⟩, ⟨0x648, 0x648, 1⟩,
  ⟨0x671, 0x673, 1⟩, ⟨0x688, 0x699, 1⟩, ⟨0x6c0, 0x6c0, 1⟩, ⟨0x6c3, 0x6cb, 1⟩, ⟨0x6cd, 0x6cd, 1⟩,
  ⟨0x6cf, 0x6cf, 1⟩, ⟨0x6d2, 0x6d3, 1⟩, ⟨0x6d5, 0x6d5, 1⟩, ⟨0x6ee, 0x6ef, 1⟩, ⟨0x710, 0x710, 1⟩,
  ⟨0x715, 0x719, 1⟩, ⟨0x71e, 0x71e, 1⟩, ⟨0x728, 0x72c, 2⟩, ⟨0x72f, 0x72f, 1⟩, ⟨0x74d, 0x74d, 1⟩,
  ⟨0x759, 0x75b, 1⟩, ⟨0x76b, 0x76c, 1⟩, ⟨0x771, 0x771, 1⟩, ⟨0x773, 0x774, 1⟩, ⟨0x778, 0x779, 1⟩,
  ⟨0x840, 0x840, 1⟩, ⟨0x846, 0x847, 1⟩, ⟨0x849, 0x849, 1⟩, ⟨0x854, 0x854, 1⟩, ⟨0x856, 0x858, 1⟩,
  ⟨0x867, 0x867, 1⟩, ⟨0x869, 0x86a, 1⟩, ⟨0x870, 0x882, 1⟩, ⟨0x88e, 0x88e, 1⟩, ⟨0x8aa, 0x8ac, 1⟩,
  ⟨0x8ae, 0x8ae, 1⟩, ⟨0x8b1, 0x8b2, 1⟩, ⟨0x8b9, 0x8b9, 1⟩, ⟨0x10ac5, 0x10ac9, 2⟩,
  ⟨0x10aca, 0x10aca, 1⟩, ⟨0x10ace, 0x10ad2, 1⟩, ⟨0x10add, 0x10add, 1⟩, ⟨0x10ae1, 0x10ae1, 1⟩,
  ⟨0x10ae4, 0x10ae4, 1⟩, ⟨0x10b81, 0x10b81, 1⟩, ⟨0x10b83, 0x10b85, 1⟩, ⟨0x10b89, 0x10b89, 1⟩,
  ⟨0x10b8c, 0x10b8c, 1⟩, ⟨0x10b8e, 0x10b8f, 1⟩, ⟨0x10b91, 0x10b91, 1⟩, ⟨0x10d22, 0x10d22, 1⟩,
  ⟨0x10f33, 0x10f33, 1⟩, ⟨0x10f74, 0x10f75, 1⟩, ⟨0x10fb4, 0x10fb6, 1⟩, ⟨0x10fb9, 0x10fba, 1⟩,
  ⟨0x10fbd, 0x10fbd, 1⟩, ⟨0x10fc2, 0x10fc3, 1⟩]

/-- Whether letters join past the character. -/
def isTransparent (c : Char) : Bool :=
  c = Char.ofNat 0x1e94b || (isNonspacing c && c ≠ Char.ofNat 0x1171e)

/-- Whether the last letter, the letters being given last first, joins the letter after it. -/
def joinsNext (before : List Char) : Bool :=
  match before.dropWhile isTransparent with
  | c :: _ => inRuns joiningBoth c || inRuns joiningNext c
  | [] => false

/-- Whether the first letter joins the letter before it. -/
def joinsPrevious (after : List Char) : Bool :=
  match after.dropWhile isTransparent with
  | c :: _ => inRuns joiningBoth c || inRuns joiningPrevious c
  | [] => false

end SearchGateway.Text
