attribute [default_instance 10001, instance (1100)] instPowNat

attribute [instance (1100)] List.instDecidableIsInfixOfDecidableEq
