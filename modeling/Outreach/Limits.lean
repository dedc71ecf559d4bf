set_option autoImplicit false

namespace Outreach

-- How deep lists and objects may be nested in what is copied, written as text, read, sent and shown
-- level by level. How much room there is depends on where the program runs.
class Limits where
  copyDepth : Nat
  two_le_copyDepth : 2 ≤ copyDepth
  textDepth : Nat
  readDepth : Nat
  writeDepth : Nat
  showDepth : Nat

theorem Limits.copyDepth_pos [Limits] : 0 < Limits.copyDepth :=
  Nat.lt_of_lt_of_le Nat.two_pos two_le_copyDepth

end Outreach
