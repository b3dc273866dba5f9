/-!
# Powers of numbers

The bounds of the library are powers, such as the `2 ^ 64` of words. A power is the one that the program
computes, also in a module that knows of powers in monoids.
-/

attribute [instance (high), default_instance high] instPowNat
