/-!
# Fresh names

A parameter that is added to those of a method gets a name that none of them has: the wanted name
with as few underscores behind it as possible.

## Termination

A name that was taken is not met again, because names only grow longer; so it can be struck off the
list of taken names, whose length is the measure.
-/

namespace TypedHub

/-- The name, followed by underscores until it is none of the taken ones. -/
def freshName (name : String) (taken : List String) : String :=
  if name ∈ taken then freshName (name ++ "_") (taken.erase name) else name
termination_by taken.length
decreasing_by
  have := List.length_pos_of_mem ‹name ∈ taken›
  rw [List.length_erase_of_mem ‹name ∈ taken›]
  omega

end TypedHub
