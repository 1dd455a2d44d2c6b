/-
**The orders of the calendar.**

Days, times of the day, and moments with and without a zone are each totally preordered by their
`compare`. Only timestamps have ties: one instant can be read off many local clocks.
-/

import Sift.Calendar.Timestamp

namespace Sift

/-- What is compared by one of its parts is ordered as the parts are. -/
theorem transCmp_part {α β : Type} (cmp : β → β → Ordering) [Std.TransCmp cmp] (part : α → β) :
    Std.TransCmp fun a b => cmp (part a) (part b) where
  eq_swap := Std.OrientedCmp.eq_swap
  isLE_trans := Std.TransCmp.isLE_trans

instance : Std.TransCmp Date.compare :=
  inferInstanceAs <| Std.TransCmp <|
    compareLex (compareOn Date.year) <| compareLex (compareOn Date.month) (compareOn Date.day)

instance : Std.TransCmp Clock.compare :=
  inferInstanceAs <| Std.TransCmp <|
    compareLex (compareOn fun c : Clock => c.minute.val) <|
      compareLex (compareOn fun c : Clock => c.second.val) (compareOn fun c : Clock => c.nano.val)

instance : Std.TransCmp DateTime.compare :=
  haveI := transCmp_part Date.compare DateTime.date
  haveI := transCmp_part Clock.compare DateTime.clock
  inferInstanceAs <| Std.TransCmp <|
    compareLex (fun a b : DateTime => a.date.compare b.date)
      fun a b : DateTime => a.clock.compare b.clock

instance : Std.TransCmp Timestamp.compare :=
  transCmp_part DateTime.compare Timestamp.utc

end Sift
