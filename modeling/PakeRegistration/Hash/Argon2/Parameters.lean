namespace PakeRegistration.Argon2

/-- Memory in KiB, passes over it, lanes, and the number of the algorithm's version. -/
structure Parameters where
  memoryCost : Int := 4096
  timeCost : Int := 3
  parallelism : Int := 1
  version : Int := 0x13
deriving DecidableEq, Repr

inductive Fault
  | negative
  | tooBig
  | notWord (value : Int)
  | memoryTooSmall
  | timeTooSmall
  | tooFewLanes
  | tooManyLanes
deriving DecidableEq, Repr

def Fault.message : Fault → String
  | negative => "can't convert negative number to unsigned"
  | tooBig => "int too big to convert"
  | notWord value => s!"integer {value} does not fit '32-bit unsigned int'"
  | memoryTooSmall => "Memory cost is too small"
  | timeTooSmall => "Time cost is too small"
  | tooFewLanes => "Too few lanes"
  | tooManyLanes => "Too many lanes"

def wordFault? (value : Int) : Option Fault :=
  if value < 0 then some .negative
  else if 0x10000000000000000 ≤ value then some .tooBig
  else if 0x100000000 ≤ value then some (.notWord value)
  else none

/-- The faults of four costs that are 32-bit words; eight blocks a lane are counted modulo the word size. -/
def costFault? (p : Parameters) : Option Fault :=
  if p.memoryCost < 8 ∨ p.memoryCost < 8 * p.parallelism % 0x100000000 then some .memoryTooSmall
  else if p.timeCost = 0 then some .timeTooSmall
  else if p.parallelism = 0 then some .tooFewLanes
  else if 0xFFFFFF < p.parallelism then some .tooManyLanes
  else none

namespace Parameters

def fault? (p : Parameters) : Option Fault :=
  wordFault? p.timeCost <|> wordFault? p.memoryCost <|> wordFault? p.parallelism <|> wordFault? p.version <|>
    costFault? p

end Parameters

end PakeRegistration.Argon2
