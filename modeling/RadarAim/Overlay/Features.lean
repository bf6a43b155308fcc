import RadarAim.Overlay.DrawRect

/-! The features of the overlay that only what it draws depends on. Those that the aim engine depends on as well are in
    `Settings`. -/

namespace RadarAim.Overlay

/-- The variables `g_feat_*` that the actions of the menu switch. -/
inductive Feature where
  | radar
  | lines
  | box
  | health
  | name
  | dist
  | teamBot
  | skeleton
  | head
  | vehicles
  | items
  | vehAirOnly
  | itemFilter
  | teammates
  | enemyAlert
  | offscreenArrows
  | crosshair
  | targetLock
  | bulletDrop
  | gazeRay
  | blindspotAlert
  | spectatorWarn
  | threatTier
  | grenadeWarn
  | airdropBeacon
  | soundRadar
  | knockedTimer
  | autoEvade
  deriving DecidableEq

/-- The features, with `g_radar_range` and `g_feat_aim_fov`. -/
structure Features where
  on : Feature → Bool
  radarRange : Int
  aimFov : Bool

namespace Features

def initial : Features where
  on
    | .box | .name | .teamBot => true
    | _ => false
  radarRange := 200
  aimFov := false

def drawSettings (f : Features) : DrawSettings where
  radar := f.on .radar
  radarRange := f.radarRange
  items := f.on .items
  vehicles := f.on .vehicles
  vehAirOnly := f.on .vehAirOnly
  teammates := f.on .teammates

end Features
end RadarAim.Overlay
