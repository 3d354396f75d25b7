/-!
# Powers

A power of a natural number or of an integer is the one of the core library, also
where an algebra library has powers of its own for them: what a definition says does
not depend on what else is imported. The priorities are above those of such powers.
-/

attribute [instance (1100), default_instance (10001)] instPowNat
