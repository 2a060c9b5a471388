import Kratos.Lib.History
import Kratos.Waypoint.Proof.Registry
import Kratos.Waypoint.Proof.Resolve
import Kratos.Waypoint.Proof.Confluence
import Kratos.Lib.Trace
import Kratos.Mission.Proof.Tracked
import Kratos.Mission.Proof.Visits
import Kratos.Mission.Proof.Pose
import Kratos.Mission.Proof.Through
import Kratos.Lib.Raster
import Kratos.Mission.Proof.ListCodec
import Kratos.Pgm.Node
import Kratos.Pgm.Proof.Cells
import Kratos.Pgm.Proof.Live
import Kratos.Lib.Exact
import Kratos.Lidar.Node
import Kratos.Lidar.Proof.Scan
import Kratos.Lidar.Proof.Gate
import Kratos.Lib.Turns
import Kratos.Mission.Proof.Loops
import Kratos.Mission.Proof.Booked
import Kratos.Mission.Proof.Revived
import Kratos.Mission.Proof.Invariant
import Kratos.Mission.Proof.Late
import Kratos.Mission.Proof.Drift
import Kratos.Lib.Rigid
import Kratos.Mission.Plane
import Kratos.Mission.Proof.Tagged
import Kratos.Mission.Proof.Rules
import Kratos.Waypoint.Proof.Frames
import Kratos.Waypoint.Output
import Kratos.Waypoint.Proof.Save
import Kratos.Waypoint.Proof.Views
import Kratos.Waypoint.Proof.Markers
import Kratos.Pgm.FileMode
import Kratos.Pgm.Proof.BoundingBox
import Kratos.Pgm.Proof.Writes
import Kratos.Pgm.Proof.Growth
import Kratos.Lib.Remainder
import Kratos.Lidar.Proof.Sector
import Kratos.Lib.Slice
import Kratos.Lidar.Proof.Layout
import Kratos.Bringup.LidarIp
import Kratos.Bringup.Proof.Search
import Kratos.Lib.Ring
import Kratos.Livox.Lds
import Kratos.Livox.Threads
import Kratos.Livox.Proof.Queue
import Kratos.Livox.Proof.Fifo
import Kratos.Livox.Proof.Handled
import Kratos.Livox.Proof.Wake
import Kratos.Livox.Proof.Delivery
import Kratos.Lib.OrderedMap
import Kratos.Livox.PubHandler
import Kratos.Livox.Proof.Frames
import Kratos.Lib.Slots
import Kratos.Livox.Proof.Slices
import Kratos.Livox.Proof.Cache
import Kratos.Livox.Proof.Pipeline
import Kratos.Lib.Handshake
import Kratos.Livox.Callback
import Kratos.Livox.Proof.Setup
import Kratos.Livox.Node
import Kratos.Livox.Proof.Acknowledged
import Kratos.Livox.Proof.Extrinsic
import Kratos.Livox.Lddc
import Kratos.Livox.Proof.Messages
import Kratos.Livox.Proof.Filtered
import Kratos.Livox.Proof.Topics
import Kratos.Livox.Proof.Custom
import Kratos.Livox.Proof.Offsets
import Kratos.Livox.Imu
import Kratos.Livox.Proof.Imu
import Kratos.Livox.Proof.ImuWake
