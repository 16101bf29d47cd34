import SessionFleet.Url.Reading
import SessionFleet.Wire.Outbound
/- The address under which a gateway is reached. -/
namespace SessionFleet

def gatewayQuery : String := "v=" ++ toString Packet.protocolVersion ++ "&encoding=json"

/-- A query that the address brings is replaced, a fragment stays. -/
def gatewayUrl (base : String) : Except UrlFault Url := (Url.ofText base).map fun u => u.withQuery gatewayQuery

end SessionFleet
