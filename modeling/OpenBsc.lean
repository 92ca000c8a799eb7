import OpenBsc.Libctrl.ControlRoundTrip
import OpenBsc.Sndcp.Reassembly
import OpenBsc.Sndcp.RoundTrip
import OpenBsc.OsmoBscNat.Routing
import OpenBsc.OsmoBscNat.Isolation
import OpenBsc.OsmoBscNat.Fresh
import OpenBsc.Bssgp.DownlinkUnitdata
import OpenBsc.Bssgp.DrainTimer
import OpenBsc.Ns.Unblocked
import OpenBsc.Ns.ResetTimer
import OpenBsc.GbProxy.Propagation
import OpenBsc.GbProxy.Routing
import OpenBsc.Sgsn.Identity
import OpenBsc.Sgsn.Admission
import OpenBsc.Sgsn.TlliChange
import OpenBsc.Mgcp.Loopback
import OpenBsc.Mgcp.LineEnds
import OpenBsc.OsmoBscNat.Paging
import OpenBsc.OsmoBscNat.CtrlAnswers
import OpenBsc.Libbsc.ChannelTimers
import OpenBsc.Libbsc.Quarantine
import OpenBsc.Libbsc.ImmAssignment
import OpenBsc.Libbsc.PagingRuns
import OpenBsc.Libbsc.RllMessages
import OpenBsc.Libmsc.CcRelease
import OpenBsc.Libmsc.CcIdle
import OpenBsc.Libmsc.SmsAccounting
import OpenBsc.Libmsc.SubscrServed
import OpenBsc.Libmsc.SubscrAccounted
import OpenBsc.Libmsc.SmsForward
import OpenBsc.Libmsc.ConnSecurity
import OpenBsc.Libmsc.ConnHolders
import OpenBsc.Libmsc.ConnOrder
import OpenBsc.Libmsc.CcPaired
import OpenBsc.Libtrau.TrauFrames
import OpenBsc.Libtrau.RtpPairs
import OpenBsc.Libtrau.RtpDecode
import OpenBsc.OsmoBscNat.RewriteLines
import OpenBsc.OsmoBscNat.Diversion
import OpenBsc.Llc.Window
import OpenBsc.OsmoBsc.BssapReception
import OpenBsc.OsmoBsc.MscReconnect
import OpenBsc.OsmoBsc.UplinkQueue
import OpenBsc.Bssgp.BvcContexts
import OpenBsc.Sgsn.PdpIdentity
import OpenBsc.Sgsn.PdpActivation
import OpenBsc.Sgsn.Supervision
import OpenBsc.OsmoBscNat.SetupRewrite
import OpenBsc.OsmoBscNat.SmscRewrite
import OpenBsc.OsmoBscNat.EndpointSearch
import OpenBsc.Libbsc.MobileAllocation
import OpenBsc.Libbsc.HandoverRuns
import OpenBsc.Libbsc.NeighMeas
import OpenBsc.Libmsc.SapiReject
import OpenBsc.Libmsc.SmsReception
import OpenBsc.Libbsc.RslDispatch
import OpenBsc.Libctrl.ControlNodes
import OpenBsc.Llc.FrameParsing
import OpenBsc.Sgsn.GgsnRestart
import OpenBsc.Ns.AliveTest
