/-!
# Powers

Powers of naturals and integers are the ones that come with these numbers, also
where a library offers powers of its own for whatever can be multiplied.
-/

namespace QueryReplay

attribute [scoped instance (high)] instPowNat

attribute [default_instance (high + 1)] instPowNat

end QueryReplay
