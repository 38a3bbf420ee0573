/-!
# Protocol numbers

The transport protocols that the translator knows, by the number an IP header gives them.
-/

namespace PortalNat.Protocol

def icmp : UInt8 := 1

def tcp : UInt8 := 6

def udp : UInt8 := 17

def icmpV6 : UInt8 := 58

end PortalNat.Protocol
