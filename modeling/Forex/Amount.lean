import Forex.Decimal.Text
import Forex.Text.Blank

namespace Forex

def Decimal.ofText (s : String) : Decimal := (Decimal.parse? (Text.trim s)).getD .zero

end Forex
