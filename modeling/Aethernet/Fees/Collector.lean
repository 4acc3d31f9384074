import Aethernet.Golang.Map

namespace aethernet.fees

def feeBasisPoints : UInt64 := 10
def validatorShare : UInt64 := 80
def treasuryShare : UInt64 := 20

def calculateFee (amount : UInt64) : UInt64 := amount * feeBasisPoints / 10000

/-- `Collector`, without the transfer ledger it shares and the store its statistics are copied to. -/
structure Collector where
  totalCollected : UInt64 := 0
  totalBurned : UInt64 := 0
  treasuryAccrued : UInt64 := 0
  feeBPS : UInt64 := feeBasisPoints
  validatorPct : UInt64 := validatorShare
  treasuryPct : UInt64 := treasuryShare

namespace Collector

/-- The method `calculateFee`. -/
def fee (c : Collector) (amount : UInt64) : UInt64 := if c.feeBPS = 0 then 0 else amount * c.feeBPS / 10000

def trackFee (fee burned treasury : UInt64) (c : Collector) : Collector :=
  if fee = 0 then c
  else
    { c with
      totalCollected := c.totalCollected + fee
      totalBurned := c.totalBurned + burned
      treasuryAccrued := c.treasuryAccrued + treasury }

def validatorAmount (c : Collector) (amount : UInt64) : UInt64 := c.fee amount * c.validatorPct / 100

def treasuryAmount (c : Collector) (amount : UInt64) : UInt64 := c.fee amount * c.treasuryPct / 100

/-- The statistics `CollectFeeFromRecipient` updates before it moves the fee. -/
def trackCollected (amount : UInt64) (c : Collector) : Collector :=
  c.trackFee (c.fee amount) (c.fee amount - c.validatorAmount amount - c.treasuryAmount amount)
    (c.treasuryAmount amount)

end Collector

end aethernet.fees
